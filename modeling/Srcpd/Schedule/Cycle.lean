import Mathlib.Tactic

/-!
# Serving units in phases, one after the other

A place is a unit and a phase of it.  The next place is the next phase of the
same unit, or the first phase of the next unit behind the last one; behind the
last unit it starts over.  Whatever place a round starts at, as many steps as
there are places visit each of them exactly once.
-/

namespace Srcpd.Schedule

/-- A place in a cycle: a unit and a phase of it. -/
@[ext]
structure Place where
  unit : Nat
  phase : Nat
  deriving DecidableEq, Repr

/-- The place behind another one, for a number of units of a number of phases. -/
def Place.next (units phases : Nat) (place : Place) : Place :=
  if place.phase + 1 < phases then ⟨place.unit, place.phase + 1⟩
  else ⟨if units ≤ place.unit + 1 then 0 else place.unit + 1, 0⟩

/-- The place is one of the cycle. -/
structure Place.Inside (units phases : Nat) (place : Place) : Prop where
  unit : place.unit < units
  phase : place.phase < phases

/-- The places that are visited from a place on. -/
def Place.visits (units phases : Nat) : Nat → Place → List Place
  | 0, _ => []
  | count + 1, place => place :: Place.visits units phases count (place.next units phases)

/-- All places, unit by unit. -/
def Place.all (units phases : Nat) : List Place :=
  (List.range units).flatMap fun unit => (List.range phases).map (Place.mk unit)

variable {units phases : Nat} {place : Place}

theorem Place.Inside.next (inside : place.Inside units phases) :
    (place.next units phases).Inside units phases := by
  rcases inside with ⟨unit, phase⟩
  rw [Place.next]
  split
  · constructor
    · exact unit
    · assumption
  · constructor
    · dsimp only
      split <;> omega
    · exact Nat.zero_lt_of_lt phase

/-! ## Numbered places -/

/-- The place counted through the whole cycle. -/
def Place.number (phases : Nat) (place : Place) : Nat :=
  place.unit * phases + place.phase

/-- The place with a number. -/
def Place.ofNumber (phases number : Nat) : Place :=
  ⟨number / phases, number % phases⟩

theorem Place.ofNumber_number (inside : place.Inside units phases) :
    Place.ofNumber phases (place.number phases) = place := by
  have positive : 0 < phases := Nat.zero_lt_of_lt inside.phase
  apply Place.ext
  · rw [Place.ofNumber, Place.number, mul_comm, Nat.mul_add_div positive,
      Nat.div_eq_of_lt inside.phase, add_zero]
  · rw [Place.ofNumber, Place.number, mul_comm, Nat.mul_add_mod,
      Nat.mod_eq_of_lt inside.phase]

theorem Place.number_lt (inside : place.Inside units phases) :
    place.number phases < units * phases :=
  calc place.unit * phases + place.phase
      < place.unit * phases + phases := Nat.add_lt_add_left inside.phase _
    _ = (place.unit + 1) * phases := (Nat.succ_mul _ _).symm
    _ ≤ units * phases := Nat.mul_le_mul_right _ inside.unit

theorem Place.number_next (inside : place.Inside units phases) :
    (place.next units phases).number phases =
      (place.number phases + 1) % (units * phases) := by
  rw [Place.next]
  split
  · rename_i within
    have inside' : Place.Inside units phases ⟨place.unit, place.phase + 1⟩ :=
      ⟨inside.unit, within⟩
    have below : place.number phases + 1 < units * phases := Place.number_lt inside'
    rw [Nat.mod_eq_of_lt below, Place.number, Place.number, add_assoc]
  · have last : place.phase + 1 = phases := by
      have phase := inside.phase
      omega
    have carried : place.number phases + 1 = (place.unit + 1) * phases := by
      rw [Place.number, add_assoc, last, Nat.succ_mul]
    rw [carried, Place.number, add_zero]
    split
    · have lastUnit : place.unit + 1 = units := by
        have unit := inside.unit
        omega
      rw [lastUnit, Nat.mod_self, zero_mul]
    · have below : (place.unit + 1) * phases < units * phases :=
        Nat.mul_lt_mul_of_pos_right (by omega) (Nat.zero_lt_of_lt inside.phase)
      rw [Nat.mod_eq_of_lt below]

theorem Place.all_eq (phases units : Nat) :
    Place.all units phases = (List.range (units * phases)).map (Place.ofNumber phases) := by
  induction units with
  | zero => simp [Place.all]
  | succ units ih =>
      rw [Place.all] at ih ⊢
      rw [List.range_succ, List.flatMap_append, ih, Nat.succ_mul, List.range_add, List.map_append,
        List.flatMap_singleton, List.map_map]
      congr 1
      apply List.map_congr_left
      intro phase mem
      have inside : Place.Inside (units + 1) phases ⟨units, phase⟩ :=
        ⟨Nat.lt_succ_self units, List.mem_range.mp mem⟩
      exact (Place.ofNumber_number inside).symm

/-- The places visited are consecutive numbers modulo the number of places. -/
theorem Place.visits_eq (inside : place.Inside units phases) (count : Nat) :
    place.visits units phases count =
      (List.range count).map fun i =>
        Place.ofNumber phases ((place.number phases + i) % (units * phases)) := by
  induction count generalizing place with
  | zero => rfl
  | succ count ih =>
      rw [Place.visits, ih inside.next, List.range_succ_eq_map, List.map_cons, List.map_map,
        add_zero, Nat.mod_eq_of_lt (Place.number_lt inside), Place.ofNumber_number inside]
      congr 1
      apply List.map_congr_left
      intro i _
      rw [Place.number_next inside, Nat.mod_add_mod, Function.comp_apply, add_assoc,
        Nat.add_comm 1 i]

/-- A whole round visits every place exactly once. -/
theorem Place.visits_perm (inside : place.Inside units phases) :
    (place.visits units phases (units * phases)).Perm (Place.all units phases) := by
  have rotated : (List.range (units * phases)).map
      (fun i => (place.number phases + i) % (units * phases)) =
        (List.range (units * phases)).rotate (place.number phases) := by
    apply List.ext_getElem
    · simp
    · intro i _ _
      rw [List.getElem_rotate, List.getElem_map, List.getElem_range, List.getElem_range,
        List.length_range, Nat.add_comm i]
  rw [Place.visits_eq inside, Place.all_eq]
  have spread : ((List.range (units * phases)).map fun i =>
      Place.ofNumber phases ((place.number phases + i) % (units * phases))) =
        ((List.range (units * phases)).rotate (place.number phases)).map
          (Place.ofNumber phases) := by
    rw [← rotated, List.map_map]
    rfl
  rw [spread]
  exact (List.rotate_perm _ _).map _

theorem Place.take_visits (place : Place) {count total : Nat} (fewer : count ≤ total) :
    (place.visits units phases total).take count = place.visits units phases count := by
  induction total generalizing place count with
  | zero =>
      rw [Nat.le_zero.mp fewer]
      rfl
  | succ total ih =>
      cases count with
      | zero => rfl
      | succ count =>
          rw [Place.visits, Place.visits, List.take_succ_cons, ih _ (Nat.le_of_succ_le_succ fewer)]

/-- What a whole round yields, whatever place it starts at. -/
theorem Place.map_visits_perm {β : Type*} (inside : place.Inside units phases)
    (item : Place → β) {total : Nat} (enough : phases * units ≤ total) :
    (((place.visits units phases total).map item).take (phases * units)).Perm
      ((List.range units).flatMap fun unit =>
        (List.range phases).map fun phase => item ⟨unit, phase⟩) := by
  have all : (Place.all units phases).map item = (List.range units).flatMap fun unit =>
      (List.range phases).map fun phase => item ⟨unit, phase⟩ := by
    rw [Place.all, List.map_flatMap]
    simp only [List.map_map, Function.comp_def]
  rw [← List.map_take, Place.take_visits place enough, mul_comm, ← all]
  exact (Place.visits_perm inside).map item

end Srcpd.Schedule
