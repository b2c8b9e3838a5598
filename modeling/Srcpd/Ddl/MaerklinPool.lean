import Srcpd.Ddl.Maerklin

/-!
# The Maerklin packet pool

The idle packet of this pool has address 81, which is the address of a
locomotive as well.  The table of known addresses is right as long as the first
locomotive that is entered is another one; `maerklinPacketPool_faithful_iff`
says that nothing else is needed.
-/

namespace Srcpd.Ddl

open Srcpd.Pool Srcpd.Queue Srcpd.Transition

/-! ## Calls of the composers -/

/-- The calls of the composers for locomotives. -/
inductive MaerklinCall
  | m1 (address direction speed : Int) (func : Bool) (locoDirection : Int)
  | m2 (address direction speed : Int) (func : Bool) (f : Fin 4 → Bool)
  | m4 (address direction speed : Int) (func : Bool) (f : Fin 4 → Bool)
  | m5 (address direction speed : Int) (func : Bool) (f : Fin 4 → Bool) (locoSpeed : Int)

/-- A call at its composer. -/
def compMaerklin (ddl : DdlData) : MaerklinCall → Nat × DdlData
  | .m1 address direction speed func locoDirection =>
      compMaerklin1 ddl address direction speed func locoDirection
  | .m2 address direction speed func f => compMaerklin2 ddl address direction speed func f
  | .m4 address direction speed func f => compMaerklin4 ddl address direction speed func f
  | .m5 address direction speed func f locoSpeed =>
      compMaerklin5 ddl address direction speed func f locoSpeed

/-- The address of a call. -/
def MaerklinCall.address : MaerklinCall → Int
  | .m1 address _ _ _ _ => address
  | .m2 address _ _ _ _ => address
  | .m4 address _ _ _ _ => address
  | .m5 address _ _ _ _ _ => address

/-- The call passes the range check of its composer. -/
def MaerklinCall.accepted : MaerklinCall → Bool
  | .m1 address direction speed _ _ => maerklin1Accepts address direction speed
  | .m2 address direction speed _ _ => maerklin2Accepts 80 address direction speed
  | .m4 address direction speed _ _ => maerklin2Accepts 255 address direction speed
  | .m5 address direction speed _ _ locoSpeed =>
      !(speed < 0 || 28 < speed) &&
        maerklin2Accepts 80 address direction (halfSteps speed locoSpeed).1

/-- One call after the other changes the data of the driver. -/
def maerklinStep : Step DdlData MaerklinCall :=
  fun ddl call => some (compMaerklin ddl call).2

theorem maerklin2Accepts_address {maxAddress address direction speed : Int}
    (accepted : maerklin2Accepts maxAddress address direction speed = true) :
    0 ≤ address ∧ address ≤ maxAddress := by
  simp only [maerklin2Accepts, Bool.not_eq_true', Bool.or_eq_false_iff,
    decide_eq_false_iff_not] at accepted
  omega

theorem MaerklinCall.address_range {call : MaerklinCall} (accepted : call.accepted = true) :
    0 ≤ call.address ∧ call.address < maxMarklinAddress := by
  cases call with
  | m1 address direction speed func locoDirection =>
      simp only [MaerklinCall.accepted, maerklin1Accepts, Bool.not_eq_true',
        Bool.or_eq_false_iff, decide_eq_false_iff_not] at accepted
      simp only [MaerklinCall.address, maxMarklinAddress]
      omega
  | m2 address direction speed func f =>
      have range := maerklin2Accepts_address accepted
      simp only [MaerklinCall.address, maxMarklinAddress]
      omega
  | m4 address direction speed func f =>
      have range := maerklin2Accepts_address accepted
      simp only [MaerklinCall.address, maxMarklinAddress]
      omega
  | m5 address direction speed func f locoSpeed =>
      rw [MaerklinCall.accepted, Bool.and_eq_true] at accepted
      have range := maerklin2Accepts_address accepted.2
      simp only [MaerklinCall.address, maxMarklinAddress]
      omega

/-- Updates for the same address one after the other. -/
def storeAll (pool : MaerklinPacketPool) (address : Int) (packets : List MaerklinPacket) :
    MaerklinPacketPool :=
  packets.foldl (fun pool packet => updateMaerklinPacketPool pool ⟨address.toNat, packet⟩) pool

theorem compMaerklinType2_pool (maxAddress : Int) (speed1Obsolete : Bool) (ddl : DdlData)
    (address direction speed : Int) (func : Bool) (f : Fin 4 → Bool) :
    let result := compMaerklinType2 maxAddress speed1Obsolete ddl address direction speed func f
    (maerklin2Accepts maxAddress address direction speed = true ∧ result.1 = 0 ∧
        ∃ packet, result.2.maerklinPacketPool =
          storeAll ddl.maerklinPacketPool address [packet]) ∨
      (maerklin2Accepts maxAddress address direction speed = false ∧ result = (1, ddl)) := by
  by_cases accepted : maerklin2Accepts maxAddress address direction speed = true
  · left
    rw [compMaerklinType2, if_neg (by rw [accepted]; decide)]
    exact ⟨accepted, rfl, _, rfl⟩
  · right
    rw [Bool.not_eq_true] at accepted
    rw [compMaerklinType2, if_pos (by rw [accepted]; decide)]
    exact ⟨accepted, rfl⟩

/-- A call updates the pool under its address, and does so exactly when it is
accepted; once where the addresses of the 80 address protocols end. -/
theorem compMaerklin_pool (ddl : DdlData) (call : MaerklinCall) :
    ∃ packets, (compMaerklin ddl call).2.maerklinPacketPool =
        storeAll ddl.maerklinPacketPool call.address packets ∧
      (packets = [] ↔ call.accepted = false) ∧ (80 < call.address → packets.length ≤ 1) := by
  have type2 (maxAddress : Int) (speed1Obsolete : Bool) (address direction speed : Int)
      (func : Bool) (f : Fin 4 → Bool) :
      ∃ packets, (compMaerklinType2 maxAddress speed1Obsolete ddl address direction speed func
          f).2.maerklinPacketPool = storeAll ddl.maerklinPacketPool address packets ∧
        (packets = [] ↔ maerklin2Accepts maxAddress address direction speed = false) ∧
        (80 < address → packets.length ≤ 1) := by
    rcases compMaerklinType2_pool maxAddress speed1Obsolete ddl address direction speed func f with
      ⟨accepted, _, packet, stored⟩ | ⟨rejected, same⟩
    · exact ⟨[packet], stored, by simp [accepted], fun _ => le_rfl⟩
    · exact ⟨[], by rw [same]; rfl, by simp [rejected], fun _ => Nat.zero_le _⟩
  cases call with
  | m1 address direction speed func locoDirection =>
      rw [compMaerklin, compMaerklin1]
      by_cases accepted : maerklin1Accepts address direction speed = true
      · rw [if_neg (by rw [accepted]; decide)]
        exact ⟨[_], rfl, by simp [MaerklinCall.accepted, accepted], fun _ => le_rfl⟩
      · rw [Bool.not_eq_true] at accepted
        rw [if_pos (by rw [accepted]; decide)]
        exact ⟨[], rfl, by simp [MaerklinCall.accepted, accepted], fun _ => Nat.zero_le _⟩
  | m2 address direction speed func f => exact type2 80 true address direction speed func f
  | m4 address direction speed func f => exact type2 255 false address direction speed func f
  | m5 address direction speed func f locoSpeed =>
      rw [compMaerklin, compMaerklin5]
      by_cases inRange : speed < 0 ∨ 28 < speed
      · rw [if_pos inRange]
        refine ⟨[], rfl, ?_, fun _ => Nat.zero_le _⟩
        simp only [MaerklinCall.accepted]
        rcases inRange with low | high
        · simp [low]
        · simp [high]
      · have accepts : (MaerklinCall.m5 address direction speed func f locoSpeed).accepted =
            maerklin2Accepts 80 address direction (halfSteps speed locoSpeed).1 := by
          rw [not_or] at inRange
          simp [MaerklinCall.accepted, inRange]
        rw [if_neg inRange, accepts]
        dsimp only
        rw [show compMaerklin2 = compMaerklinType2 80 true from rfl]
        rcases compMaerklinType2_pool 80 true ddl address direction (halfSteps speed locoSpeed).1
          func f with ⟨accepted, done, packet, stored⟩ | ⟨rejected, same⟩
        · have notAbove := (maerklin2Accepts_address accepted).2
          obtain ⟨more, storedAll⟩ : ∃ more, (if 0 < (halfSteps speed locoSpeed).2 ∧
                (compMaerklinType2 80 true ddl address direction (halfSteps speed locoSpeed).1
                  func f).1 = 0
              then compMaerklinType2 80 true (compMaerklinType2 80 true ddl address direction
                (halfSteps speed locoSpeed).1 func f).2 address direction
                (halfSteps speed locoSpeed).2 func f
              else compMaerklinType2 80 true ddl address direction
                (halfSteps speed locoSpeed).1 func f).2.maerklinPacketPool =
              storeAll ddl.maerklinPacketPool address (packet :: more) := by
            split
            · rcases compMaerklinType2_pool 80 true (compMaerklinType2 80 true ddl address
                  direction (halfSteps speed locoSpeed).1 func f).2 address direction
                  (halfSteps speed locoSpeed).2 func f with
                ⟨_, _, packet', stored'⟩ | ⟨_, same'⟩
              · exact ⟨[packet'], by rw [stored', stored]; rfl⟩
              · exact ⟨[], by rw [same', stored]⟩
            · exact ⟨[], stored⟩
          exact ⟨packet :: more, storedAll, by simp [accepted], fun above =>
            absurd above (not_lt.mpr notAbove)⟩
        · rw [same, if_neg fun second => Nat.one_ne_zero second.2]
          exact ⟨[], rfl, by simp [rejected], fun _ => Nat.zero_le _⟩

/-! ## The invariant of the pool -/

/-- The pool is what the updates so far made it. -/
structure MaerklinPacketPool.Faithful (pool : MaerklinPacketPool) : Prop where
  nodup : pool.list.Nodup
  known : ∀ adr, adr ∈ pool.list ↔
    if pool.updates = [] then adr = maerklinIdle
    else adr ∈ pool.updates.map MaerklinUpdate.adr
  stored : ∀ adr ∈ pool.list,
    if pool.updates = [] then
      pool.packets adr = ⟨maerklinIdlePacket, fun _ => maerklinIdlePacket⟩
    else ∃ update, lastUpdate MaerklinUpdate.adr pool.updates adr = some update ∧
      pool.packets adr = update.packets
  count : pool.nrOfKnownAddresses ≤ maxMarklinAddress + 1
  /-- An entry is treated as the idle one only before the first locomotive. -/
  idle : pool.idleOnly maerklinIdle = true → pool.updates = []

/-- The pool lists the addresses it was updated for and keeps the last packets of each. -/
structure MaerklinPacketPool.Inv (pool : MaerklinPacketPool) : Prop where
  lists : pool.Lists maerklinIdle (pool.updates.map MaerklinUpdate.adr)
  range : ∀ update ∈ pool.updates, update.adr < maxMarklinAddress
  idlePacket : pool.updates = [] →
    pool.packets maerklinIdle = ⟨maerklinIdlePacket, fun _ => maerklinIdlePacket⟩
  stored : ∀ adr update, lastUpdate MaerklinUpdate.adr pool.updates adr = some update →
    pool.packets adr = update.packets

variable {pool : MaerklinPacketPool}

/-- No locomotive was entered, or the listed addresses are those of updates. -/
theorem MaerklinPacketPool.Inv.mem_list_iff (inv : pool.Inv) (adr : Nat) :
    adr ∈ pool.list ↔
      if pool.updates = [] then adr = maerklinIdle
      else adr ∈ pool.updates.map MaerklinUpdate.adr := by
  rw [inv.lists.mem_iff]
  simp only [List.map_eq_nil_iff]

theorem MaerklinPacketPool.Inv.faithful (inv : pool.Inv) : pool.Faithful where
  nodup := inv.lists.nodup
  known := inv.mem_list_iff
  stored := by
    intro adr mem
    rw [inv.mem_list_iff] at mem
    by_cases none : pool.updates = []
    · rw [if_pos none] at mem ⊢
      rw [mem]
      exact inv.idlePacket none
    · rw [if_neg none] at mem ⊢
      rcases List.mem_map.mp mem with ⟨update, updated, rfl⟩
      rcases exists_lastUpdate MaerklinUpdate.adr updated with ⟨last, found⟩
      exact ⟨last, found, inv.stored _ _ found⟩
  count := by
    have inRange : pool.list.toFinset ⊆ Finset.range maxMarklinAddress := by
      intro adr mem
      rw [List.mem_toFinset, inv.mem_list_iff] at mem
      rw [Finset.mem_range]
      split at mem
      · rw [mem]
        decide
      · rcases List.mem_map.mp mem with ⟨update, updated, rfl⟩
        exact inv.range update updated
    have bound := Finset.card_le_card inRange
    rw [List.toFinset_card_of_nodup inv.lists.nodup, Known.length_list, Finset.card_range] at bound
    exact Nat.le_succ_of_le bound
  idle := by
    intro idleOnly
    exact List.map_eq_nil_iff.mp (inv.lists.idleOnly_iff.mp idleOnly)

/-- Entries in use stay in use. -/
def MaerklinPacketPool.KeepsEntries (pool next : MaerklinPacketPool) : Prop :=
  ∀ i < pool.nrOfKnownAddresses, i < next.nrOfKnownAddresses

theorem initMaerklinPacketPool_inv (memory : Nat → MaerklinPacket) :
    (initMaerklinPacketPool memory).Inv where
  lists := Known.lists_init _ _
  range := by
    intro update mem
    cases mem
  idlePacket := by
    intro _
    simp only [initMaerklinPacketPool, Function.update_self]
  stored := by
    intro adr update found
    cases found

theorem MaerklinPacketPool.Inv.update (inv : pool.Inv) (update : MaerklinUpdate)
    (range : update.adr < maxMarklinAddress)
    (first : pool.updates = [] → update.adr ≠ maerklinIdle) :
    (updateMaerklinPacketPool pool update).Inv := by
  constructor
  · show (pool.enter maerklinIdle update.adr (pool.found update.adr)).Lists maerklinIdle
      ((pool.updates ++ [update]).map MaerklinUpdate.adr)
    rw [List.map_append, List.map_singleton]
    exact inv.lists.enter (Known.search_iff _ _) fun none => first (List.map_eq_nil_iff.mp none)
  · intro other mem
    rcases List.mem_append.mp mem with mem | mem
    · exact inv.range other mem
    · rw [List.mem_singleton.mp mem]
      exact range
  · intro none
    cases List.concat_ne_nil _ _ none
  · intro adr last found
    simp only [updateMaerklinPacketPool] at found ⊢
    rw [lastUpdate_append_singleton] at found
    split at found
    · rename_i same
      cases found
      rw [← same, Function.update_self]
    · rename_i other
      rw [Function.update_of_ne (Ne.symm other)]
      exact inv.stored adr last found

/-- Only the first update of a pool can be for the idle address. -/
theorem MaerklinPacketPool.Inv.storeAll {address : Int} (inv : pool.Inv)
    (packets : List MaerklinPacket)
    (range : packets ≠ [] → address.toNat < maxMarklinAddress)
    (first : packets ≠ [] → pool.updates = [] → address.toNat ≠ maerklinIdle) :
    (storeAll pool address packets).Inv ∧
      pool.KeepsEntries (storeAll pool address packets) := by
  induction packets generalizing pool with
  | nil => exact ⟨inv, fun _ inUse => inUse⟩
  | cons packet packets ih =>
      have inRange := range (List.cons_ne_nil _ _)
      have updated := inv.update ⟨address.toNat, packet⟩ inRange (first (List.cons_ne_nil _ _))
      have rest := ih updated (fun _ => inRange) fun _ none =>
        absurd none (List.concat_ne_nil _ _)
      constructor
      · exact rest.1
      · intro i inUse
        exact rest.2 i (updated.lists.lt_enter inUse)

/-! ## Exactly when the pool is faithful -/

/-- A call for address 81 is not the first one that updates the pool. -/
def notIdleFirst (ddl : DdlData) (call : MaerklinCall) : Prop :=
  ddl.maerklinPacketPool.updates = [] → call.accepted = true → call.address ≠ maerklinIdle

theorem maerklinStep_inv {ddl next : DdlData} {call : MaerklinCall}
    (inv : ddl.maerklinPacketPool.Inv) (ok : notIdleFirst ddl call)
    (taken : maerklinStep ddl call = some next) :
    next.maerklinPacketPool.Inv ∧
      ddl.maerklinPacketPool.KeepsEntries next.maerklinPacketPool := by
  rw [maerklinStep, Option.some.injEq] at taken
  subst taken
  rcases compMaerklin_pool ddl call with ⟨packets, stored, rejected, _⟩
  have accepted (some : packets ≠ []) : call.accepted = true := by
    rw [← Bool.not_eq_false, ← rejected]
    exact some
  rw [stored]
  apply inv.storeAll
  · intro some
    have range := call.address_range (accepted some)
    omega
  · intro some none
    have range := call.address_range (accepted some)
    have notIdle := ok none (accepted some)
    omega

/-- Entered first, address 81 is not listed. -/
theorem maerklinStep_dropped {ddl next : DdlData} {call : MaerklinCall}
    (inv : ddl.maerklinPacketPool.Inv) (bad : ¬ notIdleFirst ddl call)
    (taken : maerklinStep ddl call = some next) :
    next.maerklinPacketPool.list = [] ∧
      ∃ packet, next.maerklinPacketPool.updates = [⟨maerklinIdle, packet⟩] := by
  rw [maerklinStep, Option.some.injEq] at taken
  subst taken
  simp only [notIdleFirst, Classical.not_imp, not_not] at bad
  rcases bad with ⟨none, accepted, isIdle⟩
  rcases compMaerklin_pool ddl call with ⟨packets, stored, rejected, atMostOne⟩
  have single : ∃ packet, packets = [packet] := by
    rw [← List.length_eq_one_iff]
    apply Nat.le_antisymm
    · exact atMostOne (by rw [isIdle]; decide)
    · apply List.length_pos_of_ne_nil
      intro empty
      rw [rejected.mp empty] at accepted
      cases accepted
  rcases single with ⟨packet, rfl⟩
  have found : ddl.maerklinPacketPool.found maerklinIdle = true := by
    rw [MaerklinPacketPool.found, Known.search_iff, inv.mem_list_iff, if_pos none]
  have idleOnly : ddl.maerklinPacketPool.idleOnly maerklinIdle = true := by
    rw [inv.lists.idleOnly_iff, none, List.map_nil]
  rw [stored]
  constructor
  · show (ddl.maerklinPacketPool.enter maerklinIdle call.address.toNat _).list = []
    rw [isIdle, Int.toNat_natCast, found, Known.list_enter, if_pos idleOnly, if_pos rfl]
    rfl
  · refine ⟨packet, ?_⟩
    show ddl.maerklinPacketPool.updates ++ [⟨call.address.toNat, packet⟩] = _
    rw [none, isIdle]
    rfl

theorem maerklinStep_not_faithful {ddl next : DdlData} {call : MaerklinCall}
    (inv : ddl.maerklinPacketPool.Inv) (bad : ¬ notIdleFirst ddl call)
    (taken : maerklinStep ddl call = some next) : ¬ next.maerklinPacketPool.Faithful := by
  rcases maerklinStep_dropped inv bad taken with ⟨dropped, packet, updated⟩
  intro faithful
  have listed := faithful.known maerklinIdle
  rw [dropped, updated, if_neg (List.cons_ne_nil _ _)] at listed
  exact List.not_mem_nil (listed.mpr List.mem_cons_self)

/-- From the initialised pool on, whatever the composers are called with and in
whatever order: the pool is faithful after every call if and only if address 81
is not the first one that is entered. -/
theorem maerklinPacketPool_faithful_iff (memory : Nat → MaerklinPacket) (bus : DdlData)
    (calls : List MaerklinCall) :
    let ddl := { bus with maerklinPacketPool := initMaerklinPacketPool memory }
    HoldsAlong maerklinStep (fun ddl => ddl.maerklinPacketPool.Faithful) ddl calls ↔
      MeetsAlong maerklinStep notIdleFirst ddl calls := by
  have sound (ddl : DdlData) (inv : ddl.maerklinPacketPool.Inv) :
      ddl.maerklinPacketPool.Faithful := inv.faithful
  apply holdsAlong_iff_meetsAlong sound
  · intro ddl call next inv ok taken
    exact (maerklinStep_inv inv ok taken).1
  · intro ddl call next inv bad taken
    exact maerklinStep_not_faithful inv bad taken
  · exact initMaerklinPacketPool_inv memory

/-- A bus with nothing but the Maerklin protocol, after `init_bus_DDL`. -/
def maerklinBus : DdlData :=
  { nmradccTrV := 3
    maerklinEnabled := true
    nmradccEnabled := false
    queue := queueInit
    nmraPacketPool := .empty
    maerklinPacketPool := initMaerklinPacketPool fun _ => ⟨[], fun _ => []⟩
    lastRefreshedMaerklinLoco := 0
    lastRefreshedMaerklinFx := -1
    lastRefreshedNmraLoco := 0
    lastRefreshedNmraFx := -1
    maerklinRefresh := true }

/-- The first locomotive has address 81 and 14 speed steps. -/
theorem maerklinStep_idleFirst :
    ¬ HoldsAlong maerklinStep (fun ddl => ddl.maerklinPacketPool.Faithful) maerklinBus
      [.m4 81 1 5 true fun _ => false] := by
  intro holds
  have bad : ¬ notIdleFirst maerklinBus (.m4 81 1 5 true fun _ => false) := by
    intro ok
    exact ok rfl rfl rfl
  exact maerklinStep_not_faithful (initMaerklinPacketPool_inv _) bad rfl (holds.2 _ rfl)

end Srcpd.Ddl
