import Srcpd.Feedback.Fb

/-!
# Modules of contacts

`setFBmodul` hands the bits of a word to the contacts of one module, from the
lowest or from the highest bit on.  Without a delay for resets every contact is
published at once: `setFBmodul_contacts` says which contact gets which bit, that
no other changes, and that each change is reported once.  The Selectrix driver
reverses the bits of a byte before the call, so that contact k is bit k - 1.
-/

namespace Srcpd.Feedback

open Srcpd.Command Srcpd.Transition

/-! ## Reports -/

/-- A call with the messages queued so far. -/
def reportStep : Step (Fb × List Int) FbAction
  | (fb, infos), .updateFB now port value =>
      (updateFB fb now port value).map fun updated =>
        (updated.2, infos ++ updateInfos fb port value)
  | (fb, infos), .checkResetFB now =>
      some (checkResetFB fb now, infos ++ checkInfos (fun _ port => port) now fb.resetQueue fb)

/-- The bit of the word for a contact of the module, both counted from 0. -/
def ModulFlags.assigned (flags : ModulFlags) (k : Nat) : Nat :=
  if flags.fbOrder0 then k else flags.ports - 1 - k

/-- What a call of `setFBmodul` makes of the contacts, and what it reports. -/
structure SetsModul (flags : ModulFlags) (modul : Int) (values : BitVec 32) (fb last : Fb)
    (infos : List Int) : Prop where
  contacts : ∀ k < flags.ports, ∀ port, port = (modul - 1) * flags.ports + 1 + k →
    1 ≤ port → port ≤ fb.numberOfFb →
      (last.fbstate (portT port)).state = if values.getLsbD (flags.assigned k) then 1 else 0
  others : ∀ contact : Nat, (∀ k < flags.ports, (contact : Int) ≠ (modul - 1) * flags.ports + k) →
    last.fbstate contact = fb.fbstate contact
  infos : ∀ port, infos.count port =
    if 1 ≤ port ∧ port ≤ fb.numberOfFb ∧
        (last.fbstate (portT port)).state ≠ (fb.fbstate (portT port)).state then 1 else 0

/-! ## Contacts that are published at once -/

/-- No reset is delayed, and none is pending. -/
structure Fb.Settled (fb : Fb) : Prop where
  minTime : fb.minTime = 0
  change : ∀ contact, 0 ≤ (fb.fbstate contact).change

variable {fb next : Fb} {now port value : Int}

theorem Fb.Settled.setState (settled : fb.Settled) (contact : Nat) {state : FbState}
    (kept : 0 ≤ state.change) : (fb.setState contact state).Settled where
  minTime := settled.minTime
  change := by
    intro other
    by_cases same : other = contact
    · rw [same, Fb.setState_fbstate_self]
      exact kept
    · rw [Fb.setState_fbstate_of_ne _ same]
      exact settled.change other

theorem Fb.Settled.checkResets (settled : fb.Settled) (now : Int) (resets : List FbReset) :
    (checkResets now resets fb).Settled := by
  induction resets generalizing fb with
  | nil => exact ⟨settled.minTime, settled.change⟩
  | cons reset rest ih =>
      unfold Feedback.checkResets
      split
      · exact ih settled
      · split
        · exact ⟨settled.minTime, settled.change⟩
        · exact ih (settled.setState reset.port le_rfl)

theorem Fb.Settled.step {action : FbAction} (settled : fb.Settled)
    (taken : fbStep fb action = some next) : next.Settled := by
  cases action with
  | checkResetFB now =>
      cases taken
      exact settled.checkResets now fb.resetQueue
  | updateFB now port value =>
      simp only [fbStep, Option.map_eq_some_iff, Prod.exists] at taken
      rcases taken with ⟨code, after, returned, rfl⟩
      rcases updateFB_cases returned with ⟨_, rfl⟩ | ⟨_, ⟨_, rfl⟩ | ⟨_, _, _, rfl⟩ |
        ⟨_, _, delayed, _⟩ | ⟨_, _, _, rfl⟩ | ⟨_, _, _, rfl⟩⟩
      · exact settled
      · exact settled
      · exact settled.setState _ le_rfl
      · exact absurd settled.minTime delayed
      · exact settled.setState _ le_rfl
      · exact settled.setState _ le_rfl

theorem settled_initFB (number start : Int) : (initFB number 0 start).Settled where
  minTime := rfl
  change := fun _ => le_rfl

/-- The value of a bit. -/
def bitValue (bit : Bool) : Int :=
  if bit then 1 else 0

/-- A contact that differs from the bit is set and reported. -/
theorem updateFB_settled (settled : fb.Settled) (inside : ¬ (port > fb.numberOfFb ∨ port < 1))
    (now : Int) (bit : Bool) (differs : (fb.fbstate (portT port)).state ≠ bitValue bit) :
    updateFB fb now port (bitValue bit) =
        some (.ok, fb.setState (portT port) ⟨now, bitValue bit, 0⟩) ∧
      updateInfos fb port (bitValue bit) = [port] := by
  have published := not_lt.mpr (settled.change (portT port))
  cases bit with
  | false =>
      simp only [updateFB, updateInfos, if_neg inside, if_pos differs, settled.minTime]
      exact ⟨rfl, rfl⟩
  | true =>
      simp only [updateFB, updateInfos, if_neg inside, if_pos differs, if_neg published]
      exact ⟨rfl, rfl⟩

/-- A call about one contact with the value of a bit. -/
structure SetsContact (fb last : Fb) (port : Int) (bit : Bool) (infos : List Int) : Prop where
  settled : last.Settled
  numberOfFb : last.numberOfFb = fb.numberOfFb
  others : ∀ contact, contact ≠ portT port → last.fbstate contact = fb.fbstate contact
  outside : port > fb.numberOfFb ∨ port < 1 → last = fb
  inside : ¬ (port > fb.numberOfFb ∨ port < 1) →
    (last.fbstate (portT port)).state = bitValue bit
  infos : infos =
    if (last.fbstate (portT port)).state ≠ (fb.fbstate (portT port)).state then [port] else []

theorem reportStep_bit (settled : fb.Settled) (infos : List Int) (now port : Int) (bit : Bool) :
    ∃ last new, reportStep (fb, infos) (.updateFB now port (bitValue bit)) =
        some (last, infos ++ new) ∧
      SetsContact fb last port bit new := by
  have unchanged : [] = if (fb.fbstate (portT port)).state ≠ (fb.fbstate (portT port)).state
      then [port] else [] := (if_neg (not_not.mpr rfl)).symm
  by_cases outside : port > fb.numberOfFb ∨ port < 1
  · refine ⟨fb, [], ?_, settled, rfl, fun _ _ => rfl, fun _ => rfl,
      fun inside => absurd outside inside, unchanged⟩
    simp [reportStep, updateFB, updateInfos, if_pos outside]
  · by_cases same : (fb.fbstate (portT port)).state = bitValue bit
    · refine ⟨fb, [], ?_, settled, rfl, fun _ _ => rfl, fun far => absurd far outside,
        fun _ => same, unchanged⟩
      simp only [reportStep, updateFB, updateInfos, if_neg outside, if_neg (not_not.mpr same)]
      rfl
    · rcases updateFB_settled settled outside now bit same with ⟨updated, reported⟩
      refine ⟨fb.setState (portT port) ⟨now, bitValue bit, 0⟩, [port], ?_,
        settled.setState _ le_rfl, rfl,
        fun contact other => Fb.setState_fbstate_of_ne fb other _,
        fun far => absurd far outside, fun _ => by rw [Fb.setState_fbstate_self], ?_⟩
      · rw [reportStep, updated, reported]
        rfl
      · rw [Fb.setState_fbstate_self, if_pos (Ne.symm same)]

theorem portT_ne {first second : Int} (one : 1 ≤ first) (one' : 1 ≤ second)
    (other : first ≠ second) : portT first ≠ portT second := by
  unfold portT
  omega

/-- Calls about a row of contacts. -/
structure SetsRow (fb last : Fb) (first : Int) (count : Nat) (bits : Nat → Bool)
    (infos : List Int) : Prop where
  settled : last.Settled
  numberOfFb : last.numberOfFb = fb.numberOfFb
  contacts : ∀ k < count, 1 ≤ first + k → first + k ≤ fb.numberOfFb →
    (last.fbstate (portT (first + k))).state = bitValue (bits k)
  others : ∀ contact : Nat, (∀ k < count, (contact : Int) ≠ first - 1 + k) →
    last.fbstate contact = fb.fbstate contact
  infos : ∀ port, infos.count port =
    if 1 ≤ port ∧ port ≤ fb.numberOfFb ∧
        (last.fbstate (portT port)).state ≠ (fb.fbstate (portT port)).state then 1 else 0

theorem run_row (settled : fb.Settled) (infos : List Int) (now first : Int) (count : Nat)
    (bits : Nat → Bool) :
    ∃ last new, run reportStep (fb, infos)
        ((List.range count).map fun (k : Nat) => .updateFB now (first + k) (bitValue (bits k))) =
          some (last, infos ++ new) ∧
      SetsRow fb last first count bits new := by
  induction count with
  | zero =>
      refine ⟨fb, [], by rw [List.append_nil]; rfl, settled, rfl, ?_, fun _ _ => rfl, ?_⟩
      · intro k low
        exact absurd low (Nat.not_lt_zero k)
      · intro port
        simp
  | succ count ih =>
      rcases ih with ⟨before, new, executed, row⟩
      rcases reportStep_bit row.settled (infos ++ new) now (first + count) (bits count) with
        ⟨last, added, reported, sets⟩
      refine ⟨last, new ++ added, ?_, sets.settled, sets.numberOfFb.trans row.numberOfFb,
        ?_, ?_, ?_⟩
      · rw [List.range_succ, List.map_append, List.map_singleton, run_append_singleton]
        refine ⟨_, executed, ?_⟩
        rw [reported, List.append_assoc]
      · intro k below least most
        rcases Nat.lt_succ_iff_lt_or_eq.mp below with earlier | rfl
        · by_cases far : first + count > before.numberOfFb ∨ first + count < 1
          · rw [sets.outside far]
            exact row.contacts k earlier least most
          · rw [sets.others _ (portT_ne (by omega) (by omega) (by omega))]
            exact row.contacts k earlier least most
        · exact sets.inside (by rw [row.numberOfFb]; omega)
      · intro contact apart
        have unchanged : last.fbstate contact = before.fbstate contact := by
          by_cases far : first + count > before.numberOfFb ∨ first + count < 1
          · rw [sets.outside far]
          · refine sets.others contact fun same => apart count (Nat.lt_succ_self count) ?_
            rw [same, portT]
            omega
        rw [unchanged]
        exact row.others contact fun k below => apart k (Nat.lt_succ_of_lt below)
      · intro port
        rw [List.count_append, row.infos port, sets.infos]
        by_cases far : first + count > before.numberOfFb ∨ first + count < 1
        · rw [sets.outside far, if_neg (not_not.mpr rfl), List.count_nil, add_zero]
        · by_cases same : port = first + count
          · -- The contact of this call was not changed by one before.
            have before_eq : before.fbstate (portT port) = fb.fbstate (portT port) := by
              refine row.others _ fun k below => ?_
              rw [portT]
              omega
            rw [← same, before_eq]
            rw [row.numberOfFb, ← same] at far
            by_cases changed : (last.fbstate (portT port)).state = (fb.fbstate (portT port)).state
            · simp [changed]
            · have inside : 1 ≤ port ∧ port ≤ fb.numberOfFb := by omega
              simp [changed, inside]
          · have elsewhere : (if (last.fbstate (portT (first + count))).state ≠
                (before.fbstate (portT (first + count))).state then [first + (count : Int)]
                else []).count port = 0 := by
              split
              · exact List.count_singleton.trans (by simp [Ne.symm same])
              · rfl
            rw [elsewhere, add_zero]
            by_cases one : 1 ≤ port
            · rw [sets.others _ (portT_ne one (by omega) same)]
            · simp [one]

/-! ## The module -/

/-- The rotation of `sig_processSelectrix`: eight times the lowest bit of `data` is moved
behind `dataUP`. -/
def rotate : Nat → BitVec 32 × BitVec 32 → BitVec 32
  | 0, (dataUp, _) => dataUp
  | count + 1, (dataUp, data) => rotate count (dataUp * 2 + (data &&& 1), data / 2)

/-- `dataUp`: the bits of a byte from the other end. -/
def dataUp (data : BitVec 8) : BitVec 32 :=
  rotate 8 (0, data.setWidth 32)

/-- A Selectrix bus has modules of eight ports, and no flag is set. -/
def selectrixFlags : ModulFlags :=
  ⟨false, false, false⟩

/-- `sig_processSelectrix` behind the read of a feedback byte. -/
def processSelectrix (now currentFb : Int) (data : BitVec 8) : List FbAction :=
  setFBmodul selectrixFlags now currentFb (dataUp data)

theorem dataUp_assigned (data : BitVec 8) {k : Nat} (below : k < 8) :
    (dataUp data).getLsbD (selectrixFlags.assigned k) = data.getLsbD k := by
  have table : ∀ data : BitVec 8, ∀ k < 8,
      (dataUp data).getLsbD (selectrixFlags.assigned k) = data.getLsbD k := by
    decide +kernel
  exact table data k below

theorem Fb.Settled.setFBmodul (settled : fb.Settled) (infos : List Int) (flags : ModulFlags)
    (now modul : Int) (values : BitVec 32) :
    ∃ last new, run reportStep (fb, infos) (setFBmodul flags now modul values) =
        some (last, infos ++ new) ∧
      SetsModul flags modul values fb last new := by
  rcases run_row settled infos now ((modul - 1) * flags.ports + 1) flags.ports
    (fun k => values.getLsbD (flags.assigned k)) with ⟨last, new, executed, row⟩
  refine ⟨last, new, executed, ?_, ?_, row.infos⟩
  · rintro k below port rfl least most
    exact row.contacts k below least most
  · intro contact apart
    refine row.others contact fun k below => ?_
    have other := apart k below
    omega

/-- On a bus without a delay for resets, whatever has been reported before: a call of
`setFBmodul` gives each contact of the module the bit that the order assigns to it, changes
no other contact and reports each change once; for a Selectrix byte, contact k gets bit
k - 1. -/
theorem setFBmodul_contacts (number start : Int) (fb : Fb)
    (reached : Reachable fbStep (initFB number 0 start) fb) (infos : List Int) (now modul : Int) :
    (∀ (flags : ModulFlags) (values : BitVec 32), ∃ last new,
        run reportStep (fb, infos) (setFBmodul flags now modul values) =
            some (last, infos ++ new) ∧
          SetsModul flags modul values fb last new) ∧
      ∀ data : BitVec 8, ∃ last new,
        run reportStep (fb, infos) (processSelectrix now modul data) =
            some (last, infos ++ new) ∧
          ∀ k, 1 ≤ k → k ≤ 8 → ∀ port : Int, port = (modul - 1) * 8 + (k : Nat) → 1 ≤ port →
            port ≤ fb.numberOfFb →
              (last.fbstate (portT port)).state = if data.getLsbD (k - 1) then 1 else 0 := by
  have settled : fb.Settled :=
    Reachable.invariant (fun _ _ _ before taken => before.step taken)
      (settled_initFB number start) reached
  refine ⟨fun flags values => settled.setFBmodul infos flags now modul values, fun data => ?_⟩
  rcases settled.setFBmodul infos selectrixFlags now modul (dataUp data) with
    ⟨last, new, executed, sets⟩
  refine ⟨last, new, executed, ?_⟩
  rintro k low high port rfl least most
  have below : k - 1 < 8 := by omega
  rw [← dataUp_assigned data below]
  refine sets.contacts (k - 1) below _ ?_ least most
  have eight : (selectrixFlags.ports : Int) = 8 := rfl
  rw [eight]
  omega

/-- A bus of two Selectrix modules at the start. -/
theorem setFBmodul_contacts_initFB :
    (∀ (flags : ModulFlags) (values : BitVec 32), ∃ last new,
        run reportStep (initFB 16 0 0, []) (setFBmodul flags 0 2 values) = some (last, [] ++ new) ∧
          SetsModul flags 2 values (initFB 16 0 0) last new) ∧
      ∀ data : BitVec 8, ∃ last new,
        run reportStep (initFB 16 0 0, []) (processSelectrix 0 2 data) = some (last, [] ++ new) ∧
          ∀ k, 1 ≤ k → k ≤ 8 → ∀ port : Int, port = (2 - 1) * 8 + (k : Nat) → 1 ≤ port →
            port ≤ (initFB 16 0 0).numberOfFb →
              (last.fbstate (portT port)).state = if data.getLsbD (k - 1) then 1 else 0 :=
  setFBmodul_contacts 16 0 (initFB 16 0 0) (Reachable.refl fbStep _) [] 0 2

end Srcpd.Feedback
