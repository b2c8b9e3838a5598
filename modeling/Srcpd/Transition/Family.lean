import Mathlib.Logic.Function.Basic
import Srcpd.Transition.Core

/-!
# Families of machines

Machines that run side by side take labels that carry the name of the machine.  A run of
the family is one run of each machine with its own labels.
-/

namespace Srcpd.Transition

universe u v w

variable {ι : Type u} {σ : Type v} {ε : Type w} [DecidableEq ι]

/-- One machine takes a step. -/
def family (step : Step σ ε) : Step (ι → σ) (ι × ε) := fun states label =>
  (step (states label.1) label.2).map (Function.update states label.1)

/-- The labels of one machine. -/
def ofMember (member : ι) (labels : List (ι × ε)) : List ε :=
  labels.filterMap fun label => if label.1 = member then some label.2 else none

theorem ofMember_cons_self (member : ι) (label : ε) (labels : List (ι × ε)) :
    ofMember member ((member, label) :: labels) = label :: ofMember member labels := by
  exact List.filterMap_cons_some (if_pos rfl)

theorem ofMember_cons_of_ne {member other : ι} (different : other ≠ member) (label : ε)
    (labels : List (ι × ε)) :
    ofMember member ((other, label) :: labels) = ofMember member labels := by
  exact List.filterMap_cons_none (if_neg different)

theorem ofMember_append (member : ι) (first second : List (ι × ε)) :
    ofMember member (first ++ second) = ofMember member first ++ ofMember member second :=
  List.filterMap_append

theorem ofMember_map_self (member : ι) (labels : List ε) :
    ofMember member (labels.map fun label => (member, label)) = labels := by
  induction labels with
  | nil => rfl
  | cons label labels ih => rw [List.map_cons, ofMember_cons_self, ih]

theorem ofMember_map_of_ne {member other : ι} (different : other ≠ member) (labels : List ε) :
    ofMember member (labels.map fun label => (other, label)) = [] := by
  induction labels with
  | nil => rfl
  | cons label labels ih => rw [List.map_cons, ofMember_cons_of_ne different, ih]

theorem ofMember_flatMap {members : List ι} (distinct : members.Nodup) {member : ι}
    (present : member ∈ members) (labels : ι → List ε) :
    ofMember member (members.flatMap fun other => (labels other).map fun label => (other, label)) =
      labels member := by
  have absent {others : List ι} (elsewhere : member ∉ others) : ofMember member
      (others.flatMap fun other => (labels other).map fun label => (other, label)) = [] := by
    induction others with
    | nil => rfl
    | cons other others ih =>
        rw [List.mem_cons, not_or] at elsewhere
        rw [List.flatMap_cons, ofMember_append, ofMember_map_of_ne (Ne.symm elsewhere.1),
          ih elsewhere.2, List.append_nil]
  induction members with
  | nil => exact absurd present List.not_mem_nil
  | cons other members ih =>
      rw [List.nodup_cons] at distinct
      rw [List.flatMap_cons, ofMember_append]
      by_cases same : other = member
      · subst same
        rw [ofMember_map_self, absent distinct.1, List.append_nil]
      · rw [ofMember_map_of_ne same, List.nil_append]
        rcases List.mem_cons.mp present with own | later
        · exact absurd own.symm same
        · exact ih distinct.2 later

/-- Machines do not disturb each other. -/
theorem run_family_iff {step : Step σ ε} {states last : ι → σ} {labels : List (ι × ε)} :
    run (family step) states labels = some last ↔
      ∀ member, run step (states member) (ofMember member labels) = some (last member) := by
  induction labels generalizing states with
  | nil =>
      simp only [run_nil, ofMember, List.filterMap_nil, Option.some.injEq]
      exact funext_iff
  | cons label labels ih =>
      obtain ⟨moved, label⟩ := label
      rw [run_cons_eq_some_iff]
      constructor
      · rintro ⟨next, taken, executed⟩ member
        obtain ⟨after, stepped, rfl⟩ := Option.map_eq_some_iff.mp taken
        have rest := ih.mp executed member
        by_cases same : moved = member
        · subst same
          rw [ofMember_cons_self, run_cons_eq_some_iff]
          rw [Function.update_self] at rest
          exact ⟨after, stepped, rest⟩
        · rw [ofMember_cons_of_ne same]
          rwa [Function.update_of_ne (Ne.symm same)] at rest
      · intro members
        have own := members moved
        rw [ofMember_cons_self, run_cons_eq_some_iff] at own
        obtain ⟨after, stepped, executed⟩ := own
        refine ⟨Function.update states moved after,
          Option.map_eq_some_iff.mpr ⟨after, stepped, rfl⟩, ih.mpr ?_⟩
        intro member
        by_cases same : moved = member
        · subst same
          rw [Function.update_self]
          exact executed
        · have other := members member
          rw [ofMember_cons_of_ne same] at other
          rwa [Function.update_of_ne (Ne.symm same)]

end Srcpd.Transition
