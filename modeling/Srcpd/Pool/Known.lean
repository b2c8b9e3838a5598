import Mathlib.Tactic

/-!
# Tables of known addresses

An array of addresses and the number of entries in use.  As long as nothing was
entered the table lists an idle address; the first address that is entered
replaces it.  The idle address is a value like any other, and `Known.enter` does
not remember why it is listed, so that the table is right only while the idle
address is not the first one that is entered (`Known.Lists.enter`).
-/

namespace Srcpd.Pool

universe u

/-- An array with the number of its entries. -/
structure Known (α : Type u) where
  knownAddresses : Nat → α
  nrOfKnownAddresses : Nat

variable {α : Type u}

/-- The entries in use. -/
def Known.list (known : Known α) : List α :=
  (List.range known.nrOfKnownAddresses).map known.knownAddresses

/-- The table that lists only the idle address. -/
def Known.init (knownAddresses : Nat → α) (idle : α) : Known α :=
  { knownAddresses := Function.update knownAddresses 0 idle
    nrOfKnownAddresses := 1 }

section Enter

variable [DecidableEq α]

/-- Search the first `bound` entries. -/
def Known.search (known : Known α) (bound : Nat) (adr : α) : Bool :=
  (List.range bound).any fun i => known.knownAddresses i == adr

/-- There is only the idle entry. -/
def Known.idleOnly (known : Known α) (idle : α) : Bool :=
  known.nrOfKnownAddresses == 1 && known.knownAddresses 0 == idle

/-- Drop an idle address that stands alone, then append an address that was not
found. -/
def Known.enter (known : Known α) (idle adr : α) (found : Bool) : Known α :=
  let nr := if known.idleOnly idle then 0 else known.nrOfKnownAddresses
  if found then { known with nrOfKnownAddresses := nr }
  else
    { knownAddresses := Function.update known.knownAddresses nr adr
      nrOfKnownAddresses := nr + 1 }

end Enter

@[simp]
theorem Known.length_list (known : Known α) : known.list.length = known.nrOfKnownAddresses := by
  rw [Known.list, List.length_map, List.length_range]

theorem Known.list_init (knownAddresses : Nat → α) (idle : α) :
    (Known.init knownAddresses idle).list = [idle] := by
  simp [Known.list, Known.init, List.range_succ]

theorem Known.mem_list_of_lt {known : Known α} {i : Nat} (inUse : i < known.nrOfKnownAddresses) :
    known.knownAddresses i ∈ known.list :=
  List.mem_map.mpr ⟨i, List.mem_range.mpr inUse, rfl⟩

/-- Writing behind the entries appends one. -/
theorem Known.list_append (knownAddresses : Nat → α) (nr : Nat) (adr : α) :
    (Known.mk (Function.update knownAddresses nr adr) (nr + 1)).list =
      (Known.mk knownAddresses nr).list ++ [adr] := by
  simp only [Known.list, List.range_succ, List.map_append, List.map_singleton,
    Function.update_self]
  congr 1
  apply List.map_congr_left
  intro i mem
  exact Function.update_of_ne (List.mem_range.mp mem).ne _ _

variable [DecidableEq α] {known : Known α} {idle adr : α}

theorem Known.search_iff (known : Known α) (adr : α) :
    known.search known.nrOfKnownAddresses adr = true ↔ adr ∈ known.list := by
  simp [Known.search, Known.list]

theorem Known.idleOnly_iff_list (known : Known α) (idle : α) :
    known.idleOnly idle = true ↔ known.list = [idle] := by
  rw [Known.idleOnly, Bool.and_eq_true, beq_iff_eq, beq_iff_eq]
  constructor
  · rintro ⟨count, entry⟩
    rw [Known.list, count, List.range_one, List.map_singleton, entry]
  · intro single
    have count : known.nrOfKnownAddresses = 1 := by
      rw [← Known.length_list, single, List.length_singleton]
    rw [Known.list, count, List.range_one, List.map_singleton] at single
    exact ⟨count, List.singleton_inj.mp single⟩

/-- What an entry does to the list. -/
theorem Known.list_enter (known : Known α) (idle adr : α) (found : Bool) :
    (known.enter idle adr found).list =
      (if known.idleOnly idle then [] else known.list) ++ if found then [] else [adr] := by
  have kept : (Known.mk known.knownAddresses
      (if known.idleOnly idle then 0 else known.nrOfKnownAddresses)).list =
        if known.idleOnly idle then [] else known.list := by
    split <;> rfl
  cases found with
  | true => rw [Known.enter, if_pos rfl, kept, if_pos rfl, List.append_nil]
  | false =>
      rw [Known.enter, if_neg Bool.false_ne_true, Known.list_append, kept,
        if_neg Bool.false_ne_true]

/-- The table lists without duplicates exactly what was entered, or the idle
address before anything was. -/
structure Known.Lists (idle : α) (known : Known α) (entered : List α) : Prop where
  nodup : known.list.Nodup
  mem_iff : ∀ adr, adr ∈ known.list ↔ if entered = [] then adr = idle else adr ∈ entered
  idleOnly_iff : known.idleOnly idle = true ↔ entered = []

theorem Known.lists_init (knownAddresses : Nat → α) (idle : α) :
    (Known.init knownAddresses idle).Lists idle [] := by
  refine ⟨?_, ?_, ?_⟩
  · rw [Known.list_init]
    exact List.nodup_singleton idle
  · intro adr
    rw [Known.list_init, if_pos rfl, List.mem_singleton]
  · simp [Known.idleOnly, Known.init]

theorem Known.Lists.count_pos {entered : List α} (lists : known.Lists idle entered) :
    0 < known.nrOfKnownAddresses := by
  have listed : ∃ adr, adr ∈ known.list := by
    cases entered with
    | nil => exact ⟨idle, (lists.mem_iff idle).mpr rfl⟩
    | cons first entered =>
        refine ⟨first, (lists.mem_iff first).mpr ?_⟩
        rw [if_neg (List.cons_ne_nil _ _)]
        exact List.mem_cons_self
  obtain ⟨adr, mem⟩ := listed
  rw [← Known.length_list]
  exact List.length_pos_of_mem mem

/-- An entry keeps the table right, unless the idle address is entered first. -/
theorem Known.Lists.enter {entered : List α} (lists : known.Lists idle entered) {found : Bool}
    (search : found = true ↔ adr ∈ known.list) (first : entered = [] → adr ≠ idle) :
    (known.enter idle adr found).Lists idle (entered ++ [adr]) := by
  have entered_ne : entered ++ [adr] ≠ [] := List.concat_ne_nil _ _
  by_cases none : entered = []
  · have idleOnly := lists.idleOnly_iff.mpr none
    have notFound : found = false := by
      rw [← Bool.not_eq_true, search, lists.mem_iff, if_pos none]
      exact first none
    have single : (known.enter idle adr found).list = [adr] := by
      rw [Known.list_enter, if_pos idleOnly, notFound, if_neg Bool.false_ne_true, List.nil_append]
    refine ⟨?_, ?_, ?_⟩
    · rw [single]
      exact List.nodup_singleton adr
    · intro other
      rw [single, none, List.nil_append, if_neg (List.cons_ne_nil _ _)]
    · rw [Known.idleOnly_iff_list, single]
      constructor
      · intro same
        exact absurd (List.singleton_inj.mp same) (first none)
      · intro empty
        contradiction
  · have notIdle : ¬ known.idleOnly idle = true := by
      rw [lists.idleOnly_iff]
      exact none
    have grown : (known.enter idle adr found).list =
        known.list ++ if found then [] else [adr] := by
      rw [Known.list_enter, if_neg notIdle]
    have memEntered (other : α) : other ∈ known.list ↔ other ∈ entered := by
      rw [lists.mem_iff, if_neg none]
    refine ⟨?_, ?_, ?_⟩
    · rw [grown]
      cases found with
      | true =>
          rw [if_pos rfl, List.append_nil]
          exact lists.nodup
      | false =>
          have absent : adr ∉ known.list := fun mem => Bool.false_ne_true (search.mpr mem)
          rw [if_neg Bool.false_ne_true]
          exact lists.nodup.append (List.nodup_singleton adr)
            (List.disjoint_singleton.mpr absent)
    · intro other
      rw [grown, if_neg entered_ne, List.mem_append, List.mem_append, memEntered]
      cases found with
      | true =>
          have present : adr ∈ entered := (memEntered adr).mp (search.mp rfl)
          rw [if_pos rfl, List.mem_singleton]
          constructor
          · rintro (mem | mem)
            · exact Or.inl mem
            · cases mem
          · rintro (mem | rfl)
            · exact Or.inl mem
            · exact Or.inl present
      | false => rw [if_neg Bool.false_ne_true]
    · rw [Known.idleOnly_iff_list, grown]
      constructor
      · intro same
        have count := lists.count_pos
        have lengths := congrArg List.length same
        cases found with
        | true =>
            rw [if_pos rfl, List.append_nil] at same
            exact absurd ((Known.idleOnly_iff_list _ _).mpr same) notIdle
        | false =>
            rw [if_neg Bool.false_ne_true, List.length_append, Known.length_list,
              List.length_singleton, List.length_singleton] at lengths
            omega
      · intro empty
        contradiction

/-- An entry in use stays one. -/
theorem Known.Lists.lt_enter {entered : List α} {found : Bool} {i : Nat}
    (lists : (known.enter idle adr found).Lists idle entered)
    (inUse : i < known.nrOfKnownAddresses) :
    i < (known.enter idle adr found).nrOfKnownAddresses := by
  have positive := lists.count_pos
  rw [← Known.length_list, Known.list_enter, List.length_append] at positive ⊢
  by_cases idleOnly : known.idleOnly idle = true
  · have single : known.nrOfKnownAddresses = 1 := by
      rw [← Known.length_list, (Known.idleOnly_iff_list _ _).mp idleOnly, List.length_singleton]
    omega
  · rw [if_neg idleOnly, Known.length_list]
    omega

/-! ## The last update of an address -/

section LastUpdate

variable {υ : Type u}

/-- The last one of a sequence of updates that is for `wanted`. -/
def lastUpdate (adr : υ → α) (updates : List υ) (wanted : α) : Option υ :=
  updates.reverse.find? fun update => adr update == wanted

theorem lastUpdate_append_singleton (adr : υ → α) (updates : List υ) (update : υ)
    (wanted : α) :
    lastUpdate adr (updates ++ [update]) wanted =
      if adr update = wanted then some update else lastUpdate adr updates wanted := by
  rw [lastUpdate, List.reverse_append, List.reverse_singleton, List.singleton_append,
    List.find?_cons]
  by_cases same : adr update = wanted
  · simp [same]
  · rw [if_neg same, beq_eq_false_iff_ne.mpr same]
    rfl

theorem exists_lastUpdate (adr : υ → α) {updates : List υ} {update : υ}
    (mem : update ∈ updates) : ∃ last, lastUpdate adr updates (adr update) = some last := by
  rw [← Option.isSome_iff_exists, lastUpdate, List.find?_isSome]
  exact ⟨update, List.mem_reverse.mpr mem, beq_self_eq_true _⟩

end LastUpdate

end Srcpd.Pool
