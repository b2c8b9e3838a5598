import Srcpd.Feedback.Modul

/-!
# Levels of contacts

A driver hands the levels of contacts to `updateFB` one after the other.  On a bus without a
delay for resets a contact has the last level that it was given, as `run_levels` says for calls
in any order and at any times.
-/

namespace Srcpd.Feedback

open Srcpd.Command Srcpd.Transition

variable {fb last : Fb}

/-! ## Calls -/

/-- The last level in a list that a contact was set to. -/
def lastLevel (port : Int) (levels : List (Int × Bool)) : Option Bool :=
  ((levels.filter fun level => level.1 = port).getLast?).map Prod.snd

theorem lastLevel_append_singleton (port : Int) (levels : List (Int × Bool)) (level : Int × Bool) :
    lastLevel port (levels ++ [level]) =
      if level.1 = port then some level.2 else lastLevel port levels := by
  rw [lastLevel, List.filter_append]
  by_cases same : level.1 = port
  · simp [same]
  · simp [same, lastLevel]

/-- The level that a call gives to a contact. -/
def FbAction.levels : FbAction → List (Int × Bool)
  | .updateFB _ port value => [(port, value ≠ 0)]
  | .checkResetFB _ => []

/-- A call with a bit, or one that finds no reset. -/
def FbAction.Plain (fb : Fb) : FbAction → Prop
  | .updateFB _ _ value => ∃ bit, value = bitValue bit
  | .checkResetFB _ => fb.resetQueue = []

theorem FbAction.levels_bit (now port : Int) (bit : Bool) :
    (FbAction.updateFB now port (bitValue bit)).levels = [(port, bit)] := by
  cases bit <;> rfl

theorem checkResetFB_of_nil (empty : fb.resetQueue = []) (now : Int) :
    checkResetFB fb now = fb := by
  rw [checkResetFB, empty, checkResets, ← empty]

/-- Without a delay no reset is queued. -/
theorem updateFB_resetQueue (settled : fb.Settled) {now port value : Int} {code : SrcpCode}
    (returned : updateFB fb now port value = some (code, last)) :
    last.resetQueue = fb.resetQueue := by
  rcases updateFB_cases returned with ⟨_, rfl⟩ | ⟨_, ⟨_, rfl⟩ | ⟨_, _, _, rfl⟩ |
    ⟨_, _, delayed, _⟩ | ⟨_, _, _, rfl⟩ | ⟨_, _, _, rfl⟩⟩
  · rfl
  · rfl
  · rfl
  · exact absurd settled.minTime delayed
  · rfl
  · rfl

/-! ## Runs -/

/-- The contacts have the last levels they were given, and no reset was queued. -/
structure SetsLevels (fb last : Fb) (levels : List (Int × Bool)) : Prop where
  settled : last.Settled
  numberOfFb : last.numberOfFb = fb.numberOfFb
  resetQueue : last.resetQueue = fb.resetQueue
  contacts : ∀ port, 1 ≤ port → port ≤ fb.numberOfFb →
    (last.fbstate (portT port)).state =
      (lastLevel port levels).elim (fb.fbstate (portT port)).state bitValue

theorem SetsLevels.updateFB {before : Fb} {levels : List (Int × Bool)}
    (sets : SetsLevels fb before levels) (infos : List Int) (now port : Int) (bit : Bool) :
    ∃ last new, reportStep (before, infos) (.updateFB now port (bitValue bit)) =
        some (last, infos ++ new) ∧
      SetsLevels fb last (levels ++ [(port, bit)]) := by
  rcases reportStep_bit sets.settled infos now port bit with ⟨last, new, reported, contact⟩
  refine ⟨last, new, reported, contact.settled, contact.numberOfFb.trans sets.numberOfFb, ?_, ?_⟩
  · rcases Option.map_eq_some_iff.mp reported with ⟨⟨code, updated⟩, returned, pair⟩
    have same : updated = last := congrArg Prod.fst pair
    rw [← same, updateFB_resetQueue sets.settled returned, sets.resetQueue]
  · intro other least most
    rw [lastLevel_append_singleton]
    by_cases same : port = other
    · rw [if_pos same, ← same]
      exact contact.inside (by rw [sets.numberOfFb]; omega)
    · rw [if_neg same, ← sets.contacts other least most]
      by_cases far : port > before.numberOfFb ∨ port < 1
      · rw [contact.outside far]
      · rw [contact.others _ (portT_ne least (by omega) (Ne.symm same))]

theorem run_levels (settled : fb.Settled) (infos : List Int) (actions : List FbAction)
    (plain : ∀ action ∈ actions, action.Plain fb) :
    ∃ last new, run reportStep (fb, infos) actions = some (last, infos ++ new) ∧
      SetsLevels fb last (actions.flatMap FbAction.levels) := by
  induction actions using List.reverseRecOn with
  | nil => exact ⟨fb, [], by rw [List.append_nil]; rfl, settled, rfl, rfl, fun _ _ _ => rfl⟩
  | append_singleton actions action ih =>
      rcases ih fun other mem => plain other (List.mem_append_left _ mem) with
        ⟨before, new, executed, sets⟩
      have next : ∃ last added, reportStep (before, infos ++ new) action =
          some (last, infos ++ (new ++ added)) ∧
            SetsLevels fb last (actions.flatMap FbAction.levels ++ action.levels) := by
        have single := plain action (List.mem_append_right actions (List.mem_singleton_self action))
        cases action with
        | updateFB now port value =>
            rcases single with ⟨bit, rfl⟩
            rcases sets.updateFB (infos ++ new) now port bit with ⟨last, added, reported, kept⟩
            rw [FbAction.levels_bit]
            exact ⟨last, added, by rw [reported, List.append_assoc], kept⟩
        | checkResetFB now =>
            have empty : before.resetQueue = [] := sets.resetQueue.trans single
            refine ⟨before, [], ?_, by rw [FbAction.levels, List.append_nil]; exact sets⟩
            rw [reportStep, checkResetFB_of_nil empty, empty, checkInfos, List.append_nil,
              List.append_nil]
      rcases next with ⟨last, added, taken, kept⟩
      refine ⟨last, new ++ added, run_append_singleton.mpr ⟨_, executed, taken⟩, ?_⟩
      rw [List.flatMap_append, List.flatMap_singleton]
      exact kept

end Srcpd.Feedback
