import Mathlib.Tactic

/-!
# Singly linked lists with a global head

The cells are linked by their addresses.  What an operation gets is either the
place of a link, the head of the list or the link of a cell, or the address of a
cell; only the former can take the cell out of the list.

`Chain links addrs` says that the list runs through exactly these cells.
-/

namespace Srcpd.Memory

/-- The head of a list and the links of all cells, in the list or not. -/
structure Links where
  head : Option Nat
  next : Nat → Option Nat

/-- Where a link is stored. -/
inductive Slot
  | head
  | next (addr : Nat)
  deriving DecidableEq, Repr

namespace Links

/-- The content of a slot. -/
def read (links : Links) : Slot → Option Nat
  | .head => links.head
  | .next addr => links.next addr

/-- A slot is written to. -/
def write (links : Links) (value : Option Nat) : Slot → Links
  | .head => { links with head := value }
  | .next addr => { links with next := Function.update links.next addr value }

/-- Put a cell in front. -/
def push (links : Links) (addr : Nat) : Links :=
  { head := some addr, next := Function.update links.next addr links.head }

/-- Take out the cell that a link leads to. -/
def unlink (links : Links) (slot : Slot) : Links :=
  match links.read slot with
  | some addr => links.write (links.next addr) slot
  | none => links

/-- The first link from a slot on that leads to a cell with a property; the fuel
bounds the number of cells that are looked at. -/
def search (links : Links) (wanted : Nat → Bool) : Nat → Slot → Option Slot
  | 0, _ => none
  | fuel + 1, slot =>
      match links.read slot with
      | none => none
      | some addr => if wanted addr then some slot else search links wanted fuel (.next addr)

end Links

/-- From this link on the list runs through these cells and ends. -/
def ChainFrom (next : Nat → Option Nat) : Option Nat → List Nat → Prop
  | link, [] => link = none
  | link, addr :: addrs => link = some addr ∧ ChainFrom next (next addr) addrs

/-- The list runs through these nodes. -/
def Chain (links : Links) (addrs : List Nat) : Prop :=
  ChainFrom links.next links.head addrs

variable {next next' : Nat → Option Nat} {link : Option Nat} {addrs addrs' : List Nat}
  {links : Links} {addr : Nat}

/-- A list runs through one sequence of cells only. -/
theorem ChainFrom.unique (chain : ChainFrom next link addrs)
    (chain' : ChainFrom next link addrs') : addrs = addrs' := by
  induction addrs generalizing link addrs' with
  | nil =>
      cases addrs' with
      | nil => rfl
      | cons addr' rest' =>
          have ended : link = none := chain
          rw [ended] at chain'
          cases chain'.1
  | cons addr rest ih =>
      rcases chain with ⟨rfl, chain⟩
      cases addrs' with
      | nil => cases (chain' : some addr = none)
      | cons addr' rest' =>
          rcases chain' with ⟨same, chain'⟩
          cases same
          rw [ih chain chain']

theorem Chain.unique (chain : Chain links addrs) (chain' : Chain links addrs') :
    addrs = addrs' :=
  ChainFrom.unique chain chain'

/-- Only the links of its own cells matter to a list. -/
theorem ChainFrom.congr (chain : ChainFrom next link addrs)
    (same : ∀ addr ∈ addrs, next' addr = next addr) : ChainFrom next' link addrs := by
  induction addrs generalizing link with
  | nil => exact chain
  | cons addr rest ih =>
      rcases chain with ⟨here, chain⟩
      refine ⟨here, ?_⟩
      rw [same addr List.mem_cons_self]
      exact ih chain fun other mem => same other (List.mem_cons_of_mem _ mem)

/-- The link of a cell outside the list may be written. -/
theorem ChainFrom.update (chain : ChainFrom next link addrs) (outside : addr ∉ addrs)
    (value : Option Nat) : ChainFrom (Function.update next addr value) link addrs := by
  apply chain.congr
  intro other mem
  apply Function.update_of_ne
  rintro rfl
  exact outside mem

theorem Chain.push (chain : Chain links addrs) (outside : addr ∉ addrs) :
    Chain (links.push addr) (addr :: addrs) := by
  constructor
  · rfl
  · simp only [Links.push, Function.update_self]
    exact ChainFrom.update chain outside _

/-- The slot lies outside the cells. -/
def Slot.Outside (slot : Slot) (addrs : List Nat) : Prop :=
  ∀ addr ∈ addrs, slot ≠ .next addr

namespace Links

@[simp]
theorem read_write (links : Links) (value : Option Nat) (slot : Slot) :
    (links.write value slot).read slot = value := by
  cases slot with
  | head => rfl
  | next addr => exact Function.update_self _ _ _

theorem read_write_of_ne (links : Links) (value : Option Nat) {slot other : Slot}
    (different : other ≠ slot) : (links.write value slot).read other = links.read other := by
  cases slot with
  | head =>
      cases other with
      | head => exact absurd rfl different
      | next addr => rfl
  | next addr =>
      cases other with
      | head => rfl
      | next other =>
          apply Function.update_of_ne
          rintro rfl
          exact different rfl

end Links

/-- A slot outside the list may be written. -/
theorem ChainFrom.write (chain : ChainFrom links.next link addrs) {slot : Slot}
    (outside : slot.Outside addrs) (value : Option Nat) :
    ChainFrom (links.write value slot).next link addrs := by
  cases slot with
  | head => exact chain
  | next addr => exact chain.update (fun mem => outside addr mem rfl) value

/-- A cell that is searched from a slot on and unlinked is gone, and the others
stay in their order. -/
theorem ChainFrom.unlink_search {wanted : Nat → Bool} {before after : List Nat} {slot : Slot}
    {fuel : Nat} (chain : ChainFrom links.next (links.read slot) (before ++ addr :: after))
    (nodup : (before ++ addr :: after).Nodup) (outside : slot.Outside (before ++ addr :: after))
    (unwanted : ∀ other ∈ before, wanted other = false) (found : wanted addr = true)
    (enough : before.length < fuel) :
    ∃ place, links.search wanted fuel slot = some place ∧ links.read place = some addr ∧
      (place = slot ∨ ∃ other ∈ before, place = .next other) ∧
      ChainFrom (links.unlink place).next ((links.unlink place).read slot) (before ++ after) := by
  induction before generalizing slot fuel with
  | nil =>
      rcases fuel with _ | fuel
      · cases enough
      · rcases chain with ⟨here, rest⟩
        refine ⟨slot, ?_, here, .inl rfl, ?_⟩
        · simp [Links.search, here, found]
        · rw [Links.unlink, here]
          simp only [Links.read_write]
          exact ChainFrom.write rest
            (fun other mem => outside other (List.mem_cons_of_mem _ mem)) _
  | cons first before ih =>
      rcases fuel with _ | fuel
      · cases enough
      · rcases chain with ⟨here, rest⟩
        rcases List.nodup_cons.mp nodup with ⟨new, nodup⟩
        have further : (Slot.next first).Outside (before ++ addr :: after) := by
          rintro other mem same
          cases same
          exact new mem
        have rest : ChainFrom links.next (links.read (.next first)) (before ++ addr :: after) :=
          rest
        rcases ih rest nodup further (fun other mem => unwanted other (List.mem_cons_of_mem _ mem))
          (Nat.lt_of_succ_lt_succ enough) with ⟨place, searched, reads, where', unlinked⟩
        have apart : slot ≠ place := by
          rintro rfl
          rcases where' with here' | ⟨other, mem, here'⟩
          · exact outside first List.mem_cons_self here'
          · exact outside other (by simp [mem]) here'
        refine ⟨place, ?_, reads, ?_, ?_, unlinked⟩
        · rw [Links.search, here]
          simp only [unwanted first List.mem_cons_self, Bool.false_eq_true, if_false]
          exact searched
        · right
          rcases where' with rfl | ⟨other, mem, rfl⟩
          · exact ⟨first, List.mem_cons_self, rfl⟩
          · exact ⟨other, List.mem_cons_of_mem _ mem, rfl⟩
        · rw [Links.unlink, reads]
          simp only
          rw [Links.read_write_of_ne _ _ apart]
          exact here

/-- The same for a search through the whole list. -/
theorem Chain.unlink_search {wanted : Nat → Bool} {before after : List Nat} {fuel : Nat}
    (chain : Chain links (before ++ addr :: after)) (nodup : (before ++ addr :: after).Nodup)
    (unwanted : ∀ other ∈ before, wanted other = false) (found : wanted addr = true)
    (enough : before.length < fuel) :
    ∃ slot, links.search wanted fuel .head = some slot ∧ links.read slot = some addr ∧
      Chain (links.unlink slot) (before ++ after) := by
  have outside : Slot.head.Outside (before ++ addr :: after) := by
    rintro other _ same
    cases same
  have whole : ChainFrom links.next (links.read .head) (before ++ addr :: after) := chain
  rcases whole.unlink_search nodup outside unwanted found enough with
    ⟨slot, searched, reads, _, unlinked⟩
  exact ⟨slot, searched, reads, unlinked⟩

end Srcpd.Memory
