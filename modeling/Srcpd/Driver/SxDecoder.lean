import Srcpd.Transition.Loop

/-!
# Reading a Selectrix decoder

An answer of the CC-2000 is waited for in a loop: the signal handler advances
`stateInterface`, and the loop polls it.  Its condition goes on when the counter of the
polls is zero, where it should stop then.  `waits_iff` says which answers it does not
matter for.
-/

namespace Srcpd.Driver.SxDecoder

open Srcpd.Transition

/-! ## Waiting for an answer -/

/-- `stateInterface` at each test of the loop condition, and the byte that is read behind
the loop. -/
structure Reply where
  polled : Nat → Int
  byte : BitVec 8

/-- What a wait loop returns: its polls, and what was left of its counter. -/
structure Waited where
  polls : Nat
  wait : Int

/-- One turn: the test of the condition, and a poll. -/
def waitBody (reply : Reply) (step : Int) (waited : Waited) : Waited ⊕ Waited :=
  if reply.polled waited.polls < step + 1 ∨ waited.wait = 0 then
    .inl ⟨waited.polls + 1, waited.wait - 1⟩
  else .inr waited

/-- The loop; `none` while it has not been left. -/
def waitLoop (fuel : Nat) (reply : Reply) (step : Int) : Option Waited :=
  iterate (waitBody reply step) fuel ⟨0, 10⟩

/-! ## The functions -/

/-- `SXSTREADY`. -/
def sxStready : BitVec 8 := 0x40

/-- `SXSTPOWER`. -/
def sxStpower : BitVec 8 := 0x80

/-- The value, with the polls of the loop. -/
def chkCC2000Status (fuel : Nat) (reply : Reply) (step : Int) (statFlag : BitVec 8) :
    Option (Int × Nat) :=
  (waitLoop fuel reply step).map fun waited =>
    (if reply.byte &&& statFlag = statFlag then -1 else 0, waited.polls)

/-- The answers to the requests, in their order. -/
structure Replies where
  ready : Reply
  power : Reply
  lower : Reply
  upper : Reply

/-- The value, with the polls of each loop. -/
def chkCC2000Ready (fuel : Nat) (replies : Replies) : Option (Int × List Nat) :=
  (chkCC2000Status fuel replies.ready 10 sxStready).bind fun ready =>
    if ready.1 ≠ 0 then
      (chkCC2000Status fuel replies.power 10 sxStpower).map fun power =>
        (if power.1 = 0 then 0 else 2, [ready.2, power.2])
    else some (1, [ready.2])

/-- `readSXDecoder`: the two bytes are awaited one after the other. -/
def readSXDecoder (fuel : Nat) (replies : Replies) : Option (Int × List Nat) :=
  (chkCC2000Ready fuel replies).bind fun ready =>
    if ready.1 = 0 then
      (waitLoop fuel replies.lower 12).bind fun lower =>
        if 0 < lower.wait then
          (waitLoop fuel replies.upper 12).map fun upper =>
            (if 0 < upper.wait then replies.lower.byte.toNat + 256 * replies.upper.byte.toNat
              else -1,
              ready.2 ++ [lower.polls, upper.polls])
        else some (-1, ready.2 ++ [lower.polls])
    else some (-1, ready.2)

/-! ## What has to hold -/

/-- The state is advanced with the last of ten polls at the latest. -/
def Reply.Arrives (reply : Reply) (step : Int) : Prop :=
  ∃ polls ≤ 10, step + 1 ≤ reply.polled polls

/-- The central unit is ready for a request. -/
abbrev Replies.Ready (replies : Replies) : Prop :=
  replies.ready.byte &&& sxStready = sxStready

/-- The track has power. -/
abbrev Replies.PowerOn (replies : Replies) : Prop :=
  replies.power.byte &&& sxStpower = sxStpower

/-- The loop ends after ten polls at most. -/
def StatusEnds (reply : Reply) (step : Int) (statFlag : BitVec 8) : Prop :=
  ∃ fuel status, chkCC2000Status fuel reply step statFlag = some status ∧ status.2 ≤ 10

/-- The value for an interface that is ready. -/
structure Replies.Value (replies : Replies) (value : Int) : Prop where
  data : replies.Ready → ¬ replies.PowerOn → replies.lower.Arrives 12 → replies.upper.Arrives 12 →
    value = replies.lower.byte.toNat + 256 * replies.upper.byte.toNat
  invalid : ¬ (replies.Ready ∧ ¬ replies.PowerOn ∧ replies.lower.Arrives 12 ∧
    replies.upper.Arrives 12) → value = -1

/-- All loops end after ten polls at most, and there are data if and only if both answers
arrived. -/
def DecoderReads (replies : Replies) : Prop :=
  ∃ fuel read, readSXDecoder fuel replies = some read ∧ (∀ polls ∈ read.2, polls ≤ 10) ∧
    replies.Value read.1

/-- The state is advanced before the last poll. -/
def Reply.Early (reply : Reply) (step : Int) : Prop :=
  ∃ polls < 10, step + 1 ≤ reply.polled polls

/-- Each answer that is waited for. -/
def Replies.Early (replies : Replies) : Prop :=
  replies.ready.Early 10 ∧
    (replies.Ready → replies.power.Early 10 ∧
      (¬ replies.PowerOn → replies.lower.Early 12 ∧ replies.upper.Early 12))

/-! ## The loop -/

variable {fuel : Nat} {reply : Reply} {replies : Replies} {step : Int} {waited : Waited}

theorem Reply.Early.arrives (early : reply.Early step) : reply.Arrives step := by
  rcases early with ⟨polls, below, advanced⟩
  exact ⟨polls, below.le, advanced⟩

/-- The loop is left with the state advanced, and never when the counter is zero. -/
theorem waitLoop_left (left : waitLoop fuel reply step = some waited) :
    waited.wait = 10 - waited.polls ∧ step + 1 ≤ reply.polled waited.polls ∧ waited.polls ≠ 10 := by
  have continues : ∀ state next : Waited, state.wait = 10 - (state.polls : Int) →
      waitBody reply step state = .inl next → next.wait = 10 - (next.polls : Int) := by
    intro state next counted taken
    unfold waitBody at taken
    split at taken
    · cases taken
      dsimp only
      push_cast
      omega
    · cases taken
  have exits : ∀ state result : Waited, state.wait = 10 - (state.polls : Int) →
      waitBody reply step state = .inr result →
      result.wait = 10 - (result.polls : Int) ∧ step + 1 ≤ reply.polled result.polls ∧
        result.polls ≠ 10 := by
    intro state result counted taken
    unfold waitBody at taken
    split at taken
    · cases taken
    · rename_i stays
      cases taken
      rw [not_or, not_lt] at stays
      exact ⟨counted, stays.1, by omega⟩
  exact iterate_partial continues exits (by norm_num) left

theorem early_of_waitLoop (left : waitLoop fuel reply step = some waited)
    (few : waited.polls ≤ 10) : reply.Early step := by
  rcases waitLoop_left left with ⟨_, advanced, other⟩
  exact ⟨waited.polls, by omega, advanced⟩

/-- From any turn on, up to the first one that finds the state advanced. -/
theorem iterate_waitBody {turns polls : Nat} (below : polls + turns < 10)
    (advanced : step + 1 ≤ reply.polled (polls + turns)) :
    ∃ waited, iterate (waitBody reply step) (turns + 1) ⟨polls, 10 - polls⟩ = some waited ∧
      waited.polls < 10 := by
  induction turns generalizing polls with
  | zero =>
      refine ⟨⟨polls, 10 - polls⟩, iterate_succ_inr _ ?_, below⟩
      unfold waitBody
      rw [if_neg]
      rw [Nat.add_zero] at advanced
      rw [not_or, not_lt]
      exact ⟨advanced, by dsimp only; omega⟩
  | succ turns ih =>
      by_cases later : reply.polled polls < step + 1
      · have taken : waitBody reply step ⟨polls, 10 - polls⟩ =
            .inl ⟨polls + 1, 10 - (polls + 1 : Nat)⟩ := by
          unfold waitBody
          rw [if_pos (.inl later)]
          congr 2
          push_cast
          omega
        rw [iterate_succ_inl _ taken]
        have shifted : polls + (turns + 1) = polls + 1 + turns := by omega
        rw [shifted] at below advanced
        exact ih below advanced
      · refine ⟨⟨polls, 10 - polls⟩, iterate_succ_inr _ ?_, by dsimp only; omega⟩
        unfold waitBody
        rw [if_neg]
        rw [not_or]
        exact ⟨later, by dsimp only; omega⟩

theorem Reply.Early.waitLoop (early : reply.Early step) :
    ∃ waited, waitLoop 10 reply step = some waited ∧ 0 < waited.wait ∧ waited.polls ≤ 10 := by
  rcases early with ⟨turns, below, advanced⟩
  have first : (0 : Nat) + turns < 10 := by omega
  rw [← Nat.zero_add turns] at advanced
  rcases iterate_waitBody first advanced with ⟨waited, left, few⟩
  have enough : SxDecoder.waitLoop 10 reply step = some waited :=
    iterate_mono (by omega) left
  have counted := (waitLoop_left enough).1
  exact ⟨waited, enough, by omega, few.le⟩

/-! ## The functions -/

theorem statusEnds_iff (statFlag : BitVec 8) :
    StatusEnds reply step statFlag ↔ reply.Early step := by
  constructor
  · rintro ⟨fuel, status, checked, few⟩
    rcases Option.map_eq_some_iff.mp checked with ⟨waited, left, rfl⟩
    exact early_of_waitLoop left few
  · intro early
    rcases early.waitLoop with ⟨waited, left, _, few⟩
    refine ⟨10, (if reply.byte &&& statFlag = statFlag then -1 else 0, waited.polls), ?_, few⟩
    rw [chkCC2000Status, left, Option.map_some]

/-- The flag is reported by a value other than 0. -/
theorem chkCC2000Status_of_early (early : reply.Early step) (statFlag : BitVec 8) :
    ∃ polls ≤ 10, chkCC2000Status 10 reply step statFlag =
      some (if reply.byte &&& statFlag = statFlag then -1 else 0, polls) := by
  rcases early.waitLoop with ⟨waited, left, _, few⟩
  exact ⟨waited.polls, few, by rw [chkCC2000Status, left, Option.map_some]⟩

theorem early_of_chkCC2000Status {statFlag : BitVec 8} {status : Int × Nat}
    (checked : chkCC2000Status fuel reply step statFlag = some status) (few : status.2 ≤ 10) :
    reply.Early step ∧ status.1 = if reply.byte &&& statFlag = statFlag then -1 else 0 := by
  rcases Option.map_eq_some_iff.mp checked with ⟨waited, left, rfl⟩
  exact ⟨early_of_waitLoop left few, rfl⟩

/-- The interface is ready and the power is off. -/
theorem chkCC2000Ready_of_early (early : replies.ready.Early 10)
    (power : replies.Ready → replies.power.Early 10) :
    ∃ ready, chkCC2000Ready 10 replies = some ready ∧ (∀ polls ∈ ready.2, polls ≤ 10) ∧
      (ready.1 = 0 ↔ replies.Ready ∧ ¬ replies.PowerOn) := by
  rcases chkCC2000Status_of_early early sxStready with ⟨polls, few, checked⟩
  by_cases flag : replies.Ready
  · rcases chkCC2000Status_of_early (power flag) sxStpower with ⟨polls', few', checked'⟩
    rw [if_pos flag] at checked
    refine ⟨(if replies.PowerOn then 2 else 0, [polls, polls']), ?_, ?_, ?_⟩
    · rw [chkCC2000Ready, checked, Option.bind_some, if_pos (show (-1 : Int) ≠ 0 by decide),
        checked', Option.map_some]
      by_cases on : replies.PowerOn
      · rw [if_pos on, if_pos on]
        rfl
      · rw [if_neg on, if_neg on]
        rfl
    · intro count mem
      rcases List.mem_pair.mp mem with rfl | rfl
      · exact few
      · exact few'
    · by_cases on : replies.PowerOn
      · refine iff_of_false ?_ fun both => both.2 on
        dsimp only
        rw [if_pos on]
        decide
      · refine iff_of_true ?_ ⟨flag, on⟩
        dsimp only
        rw [if_neg on]
  · rw [if_neg flag] at checked
    refine ⟨(1, [polls]), ?_, ?_, ?_⟩
    · rw [chkCC2000Ready, checked, Option.bind_some, if_neg (not_not.mpr rfl)]
    · intro count mem
      rwa [List.mem_singleton.mp mem]
    · simp [flag]

theorem early_of_chkCC2000Ready {ready : Int × List Nat}
    (checked : chkCC2000Ready fuel replies = some ready) (few : ∀ polls ∈ ready.2, polls ≤ 10) :
    replies.ready.Early 10 ∧ (replies.Ready → replies.power.Early 10) ∧
      (ready.1 = 0 ↔ replies.Ready ∧ ¬ replies.PowerOn) := by
  rcases Option.bind_eq_some_iff.mp checked with ⟨status, first, second⟩
  split at second
  · rename_i found
    rcases Option.map_eq_some_iff.mp second with ⟨power, third, rfl⟩
    rcases early_of_chkCC2000Status first (few _ List.mem_cons_self) with ⟨early, value⟩
    rcases early_of_chkCC2000Status third (few _ (by simp)) with ⟨early', value'⟩
    have flag : replies.Ready := by
      by_contra clear
      rw [if_neg clear] at value
      exact found value
    refine ⟨early, fun _ => early', ?_⟩
    dsimp only
    rw [value']
    by_cases on : replies.PowerOn
    · refine iff_of_false ?_ fun both => both.2 on
      rw [if_pos on]
      decide
    · refine iff_of_true ?_ ⟨flag, on⟩
      rw [if_neg on]
      rfl
  · rename_i found
    cases second
    rcases early_of_chkCC2000Status first (few _ List.mem_cons_self) with ⟨early, value⟩
    have clear : ¬ replies.Ready := by
      intro flag
      rw [if_pos flag] at value
      rw [value] at found
      exact found (by decide)
    refine ⟨early, fun flag => absurd flag clear, ?_⟩
    simp [clear]

/-- The loops that are reached end in time, and so the answers in them came early. -/
theorem Replies.early_of_reads {read : Int × List Nat}
    (executed : readSXDecoder fuel replies = some read) (few : ∀ polls ∈ read.2, polls ≤ 10) :
    replies.Early := by
  rcases Option.bind_eq_some_iff.mp executed with ⟨ready, checked, decoded⟩
  split at decoded
  · rename_i isReady
    rcases Option.bind_eq_some_iff.mp decoded with ⟨lower, left, behind⟩
    split at behind
    · rcases Option.map_eq_some_iff.mp behind with ⟨upper, left', rfl⟩
      rcases early_of_chkCC2000Ready checked fun polls mem => few _ (List.mem_append_left _ mem)
        with ⟨early, power, _⟩
      have lowerEarly := early_of_waitLoop left (few _ (by simp))
      have upperEarly := early_of_waitLoop left' (few _ (by simp))
      exact ⟨early, fun flag => ⟨power flag, fun _ => ⟨lowerEarly, upperEarly⟩⟩⟩
    · rename_i exhausted
      cases behind
      have last := few lower.polls (by simp)
      rcases waitLoop_left left with ⟨counted, _, other⟩
      omega
  · rename_i notReady
    cases decoded
    rcases early_of_chkCC2000Ready checked few with ⟨early, power, value⟩
    refine ⟨early, fun flag => ⟨power flag, fun off => ?_⟩⟩
    exact absurd (value.mpr ⟨flag, off⟩) notReady

theorem Replies.Early.reads (early : replies.Early) : DecoderReads replies := by
  rcases chkCC2000Ready_of_early early.1 fun flag => (early.2 flag).1 with
    ⟨ready, checked, few, value⟩
  by_cases isReady : ready.1 = 0
  · rcases value.mp isReady with ⟨flag, off⟩
    rcases (early.2 flag).2 off with ⟨lowerEarly, upperEarly⟩
    rcases lowerEarly.waitLoop with ⟨lower, left, inTime, lowerFew⟩
    rcases upperEarly.waitLoop with ⟨upper, left', inTime', upperFew⟩
    refine ⟨10, (replies.lower.byte.toNat + 256 * replies.upper.byte.toNat,
      ready.2 ++ [lower.polls, upper.polls]), ?_, ?_, ?_, ?_⟩
    · rw [readSXDecoder, checked, Option.bind_some, if_pos isReady, left, Option.bind_some,
        if_pos inTime, left', Option.map_some, if_pos inTime']
    · intro polls mem
      rcases List.mem_append.mp mem with mem | mem
      · exact few polls mem
      · rcases List.mem_pair.mp mem with rfl | rfl
        · exact lowerFew
        · exact upperFew
    · exact fun _ _ _ _ => rfl
    · exact fun missing => absurd ⟨flag, off, lowerEarly.arrives, upperEarly.arrives⟩ missing
  · have notReady := fun found => isReady (value.mpr found)
    refine ⟨10, (-1, ready.2), ?_, few, ?_, fun _ => rfl⟩
    · rw [readSXDecoder, checked, Option.bind_some, if_neg isReady]
    · exact fun flag off _ _ => absurd ⟨flag, off⟩ notReady

theorem decoderReads_iff : DecoderReads replies ↔ replies.Early := by
  constructor
  · rintro ⟨fuel, read, executed, few, _⟩
    exact Replies.early_of_reads executed few
  · exact Replies.Early.reads

/-- The loops end as their counter provides for, with the right data, if and only if the
state is advanced before the last poll of each of them. -/
theorem waits_iff (reply : Reply) (step : Int) (statFlag : BitVec 8) (replies : Replies) :
    (StatusEnds reply step statFlag ↔ reply.Early step) ∧
      (DecoderReads replies ↔ replies.Early) :=
  ⟨statusEnds_iff statFlag, decoderReads_iff⟩

/-- The state is advanced by this poll. -/
def advancedAt (first : Nat) (step : Int) (byte : BitVec 8) : Reply where
  polled polls := if first ≤ polls then step + 1 else step
  byte := byte

/-- An interface that is ready, with the lower byte of the data behind the last poll. -/
def lastPoll : Replies where
  ready := advancedAt 1 10 0x40
  power := advancedAt 1 10 0x00
  lower := advancedAt 10 12 0x12
  upper := advancedAt 1 12 0x34

/-- With the last poll there is one more, and the data are lost; without an answer, the
loop is never left. -/
theorem not_waits :
    readSXDecoder 12 lastPoll = some (-1, [1, 1, 11]) ∧ ¬ DecoderReads lastPoll ∧
      ¬ StatusEnds ⟨fun _ => 10, 0⟩ 10 sxStready := by
  refine ⟨by rfl, ?_, ?_⟩
  · rw [decoderReads_iff]
    rintro ⟨_, waited⟩
    rcases ((waited rfl).2 (by decide)).1 with ⟨polls, below, advanced⟩
    simp only [lastPoll, advancedAt] at advanced
    rw [if_neg (by omega)] at advanced
    exact absurd advanced (by decide)
  · rw [statusEnds_iff]
    rintro ⟨_, _, advanced⟩
    exact absurd advanced (show ¬ (11 : Int) ≤ 10 by decide)

end Srcpd.Driver.SxDecoder
