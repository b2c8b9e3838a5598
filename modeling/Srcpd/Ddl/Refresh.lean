import Srcpd.Ddl.MaerklinPool
import Srcpd.Ddl.NmraPool
import Srcpd.Schedule.Cycle

/-!
# Refreshing the locomotives

Between commands the packets of the known locomotives are sent again and again:
the packet for speed and direction, then the packets for the functions, of one
locomotive after the other.  With both protocols enabled they take turns.
-/

namespace Srcpd.Ddl

open Srcpd.Pool Srcpd.Queue Srcpd.Schedule Srcpd.Transition

/-- A packet sent by `refresh_loco`; `fx` is -1 for the packet for speed and
direction. -/
structure Refresh where
  packetType : PacketType
  adr : Nat
  fx : Int
  packet : Packetstream
  deriving DecidableEq

/-- The packet goes out in NMRA mode. -/
def Refresh.isNmra (sent : Refresh) : Bool :=
  sent.packetType == .nbLocoPkt

/-- The packet for an address: the last one, or that of a function. -/
def MaerklinPacketPool.refresh (pool : MaerklinPacketPool) (adr : Nat) (fx : Int) : Refresh :=
  if fx < 0 then ⟨.m2LocoPkt, adr, fx, (pool.packets adr).packet⟩
  else ⟨.m2FxPkt, adr, fx, (pool.packets adr).fPackets (Fin.ofNat 4 fx.toNat)⟩

/-- `none` for an address without memory. -/
def NmraPacketPool.refresh (pool : NmraPacketPool) (adr : Nat) (fx : Int) : Option Refresh :=
  (pool.packets adr).map fun memory =>
    if fx < 0 then ⟨.nbLocoPkt, adr, fx, memory.packet.val.take memory.packetSize⟩
    else ⟨.nbLocoPkt, adr, fx, memory.fxPacket.val.take memory.fxPacketSize⟩

/-- One packet is sent again, and the place moves on to the next function or address. -/
def refreshMaerklinLoco (ddl : DdlData) : Refresh × DdlData :=
  let pool := ddl.maerklinPacketPool
  let adr := pool.knownAddresses ddl.lastRefreshedMaerklinLoco
  let sent := pool.refresh adr ddl.lastRefreshedMaerklinFx
  let fx := ddl.lastRefreshedMaerklinFx + 1
  let loco := ddl.lastRefreshedMaerklinLoco + 1
  if fx = 4 then
    (sent, { ddl with
      lastRefreshedMaerklinFx := -1
      lastRefreshedMaerklinLoco := if pool.nrOfKnownAddresses ≤ loco then 0 else loco })
  else (sent, { ddl with lastRefreshedMaerklinFx := fx })

/-- One packet is sent again, and the place moves on; nothing is sent for an empty entry. -/
def refreshNmraLoco (ddl : DdlData) : Option (Refresh × DdlData) :=
  let pool := ddl.nmraPacketPool
  let adr := pool.knownAddresses ddl.lastRefreshedNmraLoco
  (pool.refresh adr ddl.lastRefreshedNmraFx).map fun sent =>
    let fx : Int := if ddl.lastRefreshedNmraFx < 0 then 0 else 1
    let loco := ddl.lastRefreshedNmraLoco + 1
    if fx = 1 then
      (sent, { ddl with
        lastRefreshedNmraFx := -1
        lastRefreshedNmraLoco := if pool.nrOfKnownAddresses ≤ loco then 0 else loco })
    else (sent, { ddl with lastRefreshedNmraFx := fx })

/-- With both protocols enabled they take turns. -/
def nextTurn (ddl : DdlData) : Bool :=
  if ddl.maerklinEnabled ∧ ddl.nmradccEnabled then !ddl.maerklinRefresh else ddl.maerklinRefresh

/-- `none` when a missing packet would be read. -/
def refreshLoco (ddl : DdlData) : Option (Refresh × DdlData) :=
  (if ddl.maerklinRefresh then some (refreshMaerklinLoco ddl) else refreshNmraLoco ddl).map
    fun (sent, next) => (sent, { next with maerklinRefresh := nextTurn next })

/-- Refreshes without an update of a pool in between. -/
def refreshes : Nat → DdlData → Option (List Refresh × DdlData)
  | 0, ddl => some ([], ddl)
  | count + 1, ddl =>
      (refreshLoco ddl).bind fun (sent, next) =>
        (refreshes count next).map fun (rest, last) => (sent :: rest, last)

/-! ## Fair refreshing -/

/-- From this state on every known locomotive is refreshed. -/
structure DdlData.Fair (ddl : DdlData) : Prop where
  maerklinIndex : ddl.maerklinEnabled = true →
    ddl.lastRefreshedMaerklinLoco < ddl.maerklinPacketPool.nrOfKnownAddresses
  nmraIndex : ddl.nmradccEnabled = true →
    ddl.lastRefreshedNmraLoco < ddl.nmraPacketPool.nrOfKnownAddresses
  runs : (ddl.maerklinEnabled = true ∨ ddl.nmradccEnabled = true) →
    ∀ count, ∃ result, refreshes count ddl = some result
  /-- `5 * Nm` refreshes send each packet of each known locomotive once. -/
  maerklinRound : ddl.maerklinEnabled = true →
    ∀ count sent last, refreshes count ddl = some (sent, last) →
      let refreshed := sent.filter fun refresh => !refresh.isNmra
      let round := 5 * ddl.maerklinPacketPool.nrOfKnownAddresses
      round ≤ refreshed.length →
        (refreshed.take round).Perm
          (ddl.maerklinPacketPool.list.flatMap fun adr =>
            [-1, 0, 1, 2, 3].map (ddl.maerklinPacketPool.refresh adr))
  /-- `2 * Nr` refreshes send both packets of each known locomotive once. -/
  nmraRound : ddl.nmradccEnabled = true →
    ∀ count sent last, refreshes count ddl = some (sent, last) →
      let refreshed := sent.filter Refresh.isNmra
      let round := 2 * ddl.nmraPacketPool.nrOfKnownAddresses
      round ≤ refreshed.length →
        ((refreshed.take round).map some).Perm
          (ddl.nmraPacketPool.list.flatMap fun adr =>
            [-1, 0].map (ddl.nmraPacketPool.refresh adr))
  alternate : ddl.maerklinEnabled = true → ddl.nmradccEnabled = true →
    ∀ count sent last, refreshes count ddl = some (sent, last) →
      (sent.map Refresh.isNmra).IsChain (· ≠ ·)

/-! ## The invariant of the refresh -/

/-- Where the refresh of the Maerklin pool is. -/
def maerklinPlace (ddl : DdlData) : Place :=
  ⟨ddl.lastRefreshedMaerklinLoco, (ddl.lastRefreshedMaerklinFx + 1).toNat⟩

/-- Where the refresh of the NMRA pool is. -/
def nmraPlace (ddl : DdlData) : Place :=
  ⟨ddl.lastRefreshedNmraLoco, (ddl.lastRefreshedNmraFx + 1).toNat⟩

/-- Both places are inside their pools, of which the invariants hold. -/
structure DdlData.RefreshInv (ddl : DdlData) : Prop where
  maerklinPool : ddl.maerklinEnabled = true → ddl.maerklinPacketPool.Inv
  maerklinInside : ddl.maerklinEnabled = true →
    (maerklinPlace ddl).Inside ddl.maerklinPacketPool.nrOfKnownAddresses 5
  maerklinFx : ddl.maerklinEnabled = true → -1 ≤ ddl.lastRefreshedMaerklinFx
  nmraPool : ddl.nmradccEnabled = true → ddl.nmraPacketPool.Inv
  nmraInside : ddl.nmradccEnabled = true →
    (nmraPlace ddl).Inside ddl.nmraPacketPool.nrOfKnownAddresses 2
  nmraFx : ddl.nmradccEnabled = true → -1 ≤ ddl.lastRefreshedNmraFx
  maerklinTurn : ddl.maerklinRefresh = true → ddl.maerklinEnabled = true
  nmraTurn : ddl.maerklinRefresh = false →
    ddl.nmradccEnabled = true ∨ ddl.maerklinEnabled = false

/-- What is sent at a place. -/
def MaerklinPacketPool.item (pool : MaerklinPacketPool) (place : Place) : Refresh :=
  pool.refresh (pool.knownAddresses place.unit) (place.phase - 1)

/-- The packet at a place of the pool. -/
def NmraPacketPool.item (pool : NmraPacketPool) (place : Place) : Option Refresh :=
  pool.refresh (pool.knownAddresses place.unit) (place.phase - 1)

theorem MaerklinPacketPool.isNmra_refresh (pool : MaerklinPacketPool) (adr : Nat) (fx : Int) :
    (pool.refresh adr fx).isNmra = false := by
  rw [MaerklinPacketPool.refresh]
  split <;> rfl

theorem NmraPacketPool.isNmra_refresh {pool : NmraPacketPool} {adr : Nat} {fx : Int}
    {sent : Refresh} (refreshed : pool.refresh adr fx = some sent) : sent.isNmra = true := by
  rcases Option.map_eq_some_iff.mp refreshed with ⟨memory, _, rfl⟩
  split <;> rfl

/-- A refresh changes the indices and the turn only. -/
structure DdlData.SameBus (ddl next : DdlData) : Prop where
  maerklinEnabled : next.maerklinEnabled = ddl.maerklinEnabled
  nmradccEnabled : next.nmradccEnabled = ddl.nmradccEnabled
  maerklinPacketPool : next.maerklinPacketPool = ddl.maerklinPacketPool
  nmraPacketPool : next.nmraPacketPool = ddl.nmraPacketPool
  turn : next.maerklinRefresh = nextTurn ddl

theorem refreshLoco_sameBus {ddl next : DdlData} {sent : Refresh}
    (done : refreshLoco ddl = some (sent, next)) : ddl.SameBus next := by
  rcases Option.map_eq_some_iff.mp done with ⟨⟨sent', moved⟩, turn, result⟩
  cases result
  split at turn
  · rw [Option.some.injEq, refreshMaerklinLoco] at turn
    split at turn
    all_goals
      cases turn
      exact ⟨rfl, rfl, rfl, rfl, rfl⟩
  · rcases Option.map_eq_some_iff.mp turn with ⟨sent'', _, result⟩
    dsimp only at result
    split at result
    all_goals
      split at result
      all_goals
        cases result
        exact ⟨rfl, rfl, rfl, rfl, rfl⟩

/-- A refresh in a turn of the Maerklin protocol. -/
theorem refreshLoco_maerklin {ddl : DdlData} (inv : ddl.RefreshInv)
    (turn : ddl.maerklinRefresh = true) :
    ∃ next, refreshLoco ddl =
        some (ddl.maerklinPacketPool.item (maerklinPlace ddl), next) ∧
      -1 ≤ next.lastRefreshedMaerklinFx ∧
      maerklinPlace next =
        (maerklinPlace ddl).next ddl.maerklinPacketPool.nrOfKnownAddresses 5 ∧
      next.lastRefreshedNmraFx = ddl.lastRefreshedNmraFx ∧ nmraPlace next = nmraPlace ddl := by
  have lower := inv.maerklinFx (inv.maerklinTurn turn)
  have upper := (inv.maerklinInside (inv.maerklinTurn turn)).phase
  simp only [maerklinPlace] at upper
  have sent : ddl.maerklinPacketPool.item (maerklinPlace ddl) = ddl.maerklinPacketPool.refresh
      (ddl.maerklinPacketPool.knownAddresses ddl.lastRefreshedMaerklinLoco)
      ddl.lastRefreshedMaerklinFx := by
    rw [MaerklinPacketPool.item, maerklinPlace, Int.toNat_of_nonneg (by omega),
      Int.add_sub_cancel]
  rw [sent, refreshLoco, if_pos turn, refreshMaerklinLoco]
  dsimp only
  by_cases last : ddl.lastRefreshedMaerklinFx + 1 = 4
  · have wraps : ¬ (ddl.lastRefreshedMaerklinFx + 1).toNat + 1 < 5 := by omega
    rw [if_pos last, Option.map_some]
    refine ⟨_, rfl, Int.le_refl (-1), ?_, rfl, rfl⟩
    rw [maerklinPlace, maerklinPlace, Place.next, if_neg wraps]
    rfl
  · have stays : (ddl.lastRefreshedMaerklinFx + 1).toNat + 1 < 5 := by omega
    rw [if_neg last, Option.map_some]
    refine ⟨_, rfl, ?_, ?_, rfl, rfl⟩
    · dsimp only
      omega
    · rw [maerklinPlace, maerklinPlace, Place.next, if_pos stays]
      dsimp only
      congr 1
      omega

/-- A refresh in a turn of the NMRA protocol. -/
theorem refreshLoco_nmra {ddl : DdlData} (inv : ddl.RefreshInv)
    (turn : ddl.maerklinRefresh = false) (enabled : ddl.nmradccEnabled = true) :
    ∃ sent next, refreshLoco ddl = some (sent, next) ∧
      ddl.nmraPacketPool.item (nmraPlace ddl) = some sent ∧
      -1 ≤ next.lastRefreshedNmraFx ∧
      nmraPlace next = (nmraPlace ddl).next ddl.nmraPacketPool.nrOfKnownAddresses 2 ∧
      next.lastRefreshedMaerklinFx = ddl.lastRefreshedMaerklinFx ∧
      maerklinPlace next = maerklinPlace ddl := by
  have lower := inv.nmraFx enabled
  rcases inv.nmraInside enabled with ⟨inUse, upper⟩
  simp only [nmraPlace] at upper inUse
  rcases (inv.nmraPool enabled).faithful.stored _ (Known.mem_list_of_lt inUse) with
    ⟨_, memory, _, present, _⟩
  have item : ddl.nmraPacketPool.item (nmraPlace ddl) = ddl.nmraPacketPool.refresh
      (ddl.nmraPacketPool.knownAddresses ddl.lastRefreshedNmraLoco) ddl.lastRefreshedNmraFx := by
    rw [NmraPacketPool.item, nmraPlace, Int.toNat_of_nonneg (by omega), Int.add_sub_cancel]
  rw [item, refreshLoco, if_neg (by rw [turn]; decide), refreshNmraLoco]
  dsimp only
  rw [NmraPacketPool.refresh, present, Option.map_some, Option.map_some, Option.map_some]
  by_cases speed : ddl.lastRefreshedNmraFx < 0
  · have stays : (ddl.lastRefreshedNmraFx + 1).toNat + 1 < 2 := by omega
    rw [if_pos speed, if_neg (by decide)]
    refine ⟨_, _, rfl, rfl,
      (neg_one_lt_zero : (-1 : Int) < 0).le, ?_, rfl, rfl⟩
    rw [nmraPlace, nmraPlace, Place.next, if_pos stays]
    dsimp only
    congr 1
    omega
  · have wraps : ¬ (ddl.lastRefreshedNmraFx + 1).toNat + 1 < 2 := by omega
    rw [if_neg speed, if_pos rfl]
    refine ⟨_, _, rfl, rfl, Int.le_refl (-1), ?_, rfl, rfl⟩
    rw [nmraPlace, nmraPlace, Place.next, if_neg wraps]
    rfl

/-- What a refresh sends, in either turn. -/
structure DdlData.Refreshed (ddl : DdlData) (sent : Refresh) (next : DdlData) : Prop where
  inv : next.RefreshInv
  isNmra : sent.isNmra = !ddl.maerklinRefresh
  maerklin : ddl.maerklinRefresh = true →
    sent = ddl.maerklinPacketPool.item (maerklinPlace ddl) ∧
      maerklinPlace next = (maerklinPlace ddl).next ddl.maerklinPacketPool.nrOfKnownAddresses 5 ∧
      nmraPlace next = nmraPlace ddl
  nmra : ddl.maerklinRefresh = false →
    some sent = ddl.nmraPacketPool.item (nmraPlace ddl) ∧
      nmraPlace next = (nmraPlace ddl).next ddl.nmraPacketPool.nrOfKnownAddresses 2 ∧
      maerklinPlace next = maerklinPlace ddl

/-- The invariant after a refresh, from what it did to the places. -/
theorem DdlData.RefreshInv.of_sameBus {ddl next : DdlData} (inv : ddl.RefreshInv)
    (same : ddl.SameBus next)
    (maerklin : ddl.maerklinEnabled = true → -1 ≤ next.lastRefreshedMaerklinFx ∧
      (maerklinPlace next).Inside ddl.maerklinPacketPool.nrOfKnownAddresses 5)
    (nmra : ddl.nmradccEnabled = true → -1 ≤ next.lastRefreshedNmraFx ∧
      (nmraPlace next).Inside ddl.nmraPacketPool.nrOfKnownAddresses 2) : next.RefreshInv := by
  have maerklinTurn := inv.maerklinTurn
  have nmraTurn := inv.nmraTurn
  constructor
  · rw [same.maerklinEnabled, same.maerklinPacketPool]
    exact inv.maerklinPool
  · rw [same.maerklinEnabled, same.maerklinPacketPool]
    exact fun enabled => (maerklin enabled).2
  · rw [same.maerklinEnabled]
    exact fun enabled => (maerklin enabled).1
  · rw [same.nmradccEnabled, same.nmraPacketPool]
    exact inv.nmraPool
  · rw [same.nmradccEnabled, same.nmraPacketPool]
    exact fun enabled => (nmra enabled).2
  · rw [same.nmradccEnabled]
    exact fun enabled => (nmra enabled).1
  · rw [same.turn, same.maerklinEnabled, nextTurn]
    split
    · exact fun _ => And.left ‹_›
    · exact maerklinTurn
  · rw [same.turn, same.maerklinEnabled, same.nmradccEnabled, nextTurn]
    split
    · exact fun _ => Or.inl (And.right ‹_›)
    · exact nmraTurn

/-- A refresh of an enabled protocol never fails, and keeps the invariant. -/
theorem DdlData.RefreshInv.refreshed {ddl : DdlData} (inv : ddl.RefreshInv)
    (enabled : ddl.maerklinEnabled = true ∨ ddl.nmradccEnabled = true) :
    ∃ sent next, refreshLoco ddl = some (sent, next) ∧ ddl.Refreshed sent next := by
  cases turn : ddl.maerklinRefresh with
  | true =>
      rcases refreshLoco_maerklin inv turn with ⟨next, done, fx, place, nmraFx, nmraPlace⟩
      refine ⟨_, next, done, ?_, ?_, ?_, ?_⟩
      · apply inv.of_sameBus (refreshLoco_sameBus done)
        · intro enabled
          rw [place]
          exact ⟨fx, (inv.maerklinInside enabled).next⟩
        · intro enabled
          rw [nmraFx, nmraPlace]
          exact ⟨inv.nmraFx enabled, inv.nmraInside enabled⟩
      · rw [turn, MaerklinPacketPool.item, MaerklinPacketPool.isNmra_refresh]
        rfl
      · intro _
        exact ⟨rfl, place, nmraPlace⟩
      · intro other
        rw [turn] at other
        cases other
  | false =>
      have nmraEnabled : ddl.nmradccEnabled = true := by
        rcases inv.nmraTurn turn with nmra | notMaerklin
        · exact nmra
        · rw [notMaerklin] at enabled
          simpa using enabled
      rcases refreshLoco_nmra inv turn nmraEnabled with
        ⟨sent, next, done, item, fx, place, maerklinFx, maerklinPlace⟩
      refine ⟨sent, next, done, ?_, ?_, ?_, ?_⟩
      · apply inv.of_sameBus (refreshLoco_sameBus done)
        · intro enabled
          rw [maerklinFx, maerklinPlace]
          exact ⟨inv.maerklinFx enabled, inv.maerklinInside enabled⟩
        · intro enabled
          rw [place]
          exact ⟨fx, (inv.nmraInside enabled).next⟩
      · rw [turn, NmraPacketPool.isNmra_refresh item]
        rfl
      · intro other
        rw [turn] at other
        cases other
      · intro _
        exact ⟨item.symm, place, maerklinPlace⟩

/-! ## Runs of refreshes -/

/-- The refreshes of each protocol visit the places of its pool one after the
other, and the first one is that of the protocol whose turn it is. -/
structure DdlData.Sends (ddl : DdlData) (sent : List Refresh) : Prop where
  maerklin :
    let refreshed := sent.filter fun refresh => !refresh.isNmra
    refreshed = ((maerklinPlace ddl).visits ddl.maerklinPacketPool.nrOfKnownAddresses 5
      refreshed.length).map ddl.maerklinPacketPool.item
  nmra :
    let refreshed := sent.filter Refresh.isNmra
    refreshed.map some = ((nmraPlace ddl).visits ddl.nmraPacketPool.nrOfKnownAddresses 2
      refreshed.length).map ddl.nmraPacketPool.item
  first : ∀ isNmra ∈ (sent.map Refresh.isNmra).head?, isNmra = !ddl.maerklinRefresh
  alternate : ddl.maerklinEnabled = true → ddl.nmradccEnabled = true →
    (sent.map Refresh.isNmra).IsChain (· ≠ ·)

theorem DdlData.Refreshed.sends_cons {ddl next : DdlData} {sent : Refresh} {rest : List Refresh}
    (refreshed : ddl.Refreshed sent next) (same : ddl.SameBus next) (sends : next.Sends rest) :
    ddl.Sends (sent :: rest) := by
  have isNmra := refreshed.isNmra
  have maerklinRest := sends.maerklin
  have nmraRest := sends.nmra
  rw [same.maerklinPacketPool] at maerklinRest
  rw [same.nmraPacketPool] at nmraRest
  constructor
  · dsimp only at maerklinRest ⊢
    cases turn : ddl.maerklinRefresh with
    | true =>
        rcases refreshed.maerklin turn with ⟨item, place, _⟩
        rw [turn] at isNmra
        rw [List.filter_cons_of_pos (by rw [isNmra]; rfl), List.length_cons, Place.visits,
          List.map_cons, ← place, ← maerklinRest, item]
    | false =>
        rw [turn] at isNmra
        rw [List.filter_cons_of_neg (by rw [isNmra]; decide), ← (refreshed.nmra turn).2.2,
          ← maerklinRest]
  · dsimp only at nmraRest ⊢
    cases turn : ddl.maerklinRefresh with
    | true =>
        rw [turn] at isNmra
        rw [List.filter_cons_of_neg (by rw [isNmra]; decide), ← (refreshed.maerklin turn).2.2,
          ← nmraRest]
    | false =>
        rcases refreshed.nmra turn with ⟨item, place, _⟩
        rw [turn] at isNmra
        rw [List.filter_cons_of_pos isNmra, List.length_cons, Place.visits, List.map_cons,
          List.map_cons, ← place, ← nmraRest, item]
  · intro head mem
    cases mem
    exact isNmra
  · intro maerklin nmra
    rw [List.map_cons, List.isChain_cons]
    constructor
    · intro head mem
      rw [sends.first head mem, isNmra, same.turn, nextTurn, if_pos ⟨maerklin, nmra⟩]
      cases ddl.maerklinRefresh <;> decide
    · apply sends.alternate
      · rw [same.maerklinEnabled, maerklin]
      · rw [same.nmradccEnabled, nmra]

theorem DdlData.RefreshInv.sends {ddl : DdlData} (inv : ddl.RefreshInv)
    (enabled : ddl.maerklinEnabled = true ∨ ddl.nmradccEnabled = true) (count : Nat) :
    ∃ sent last, refreshes count ddl = some (sent, last) ∧ ddl.Sends sent := by
  induction count generalizing ddl with
  | zero =>
      refine ⟨[], ddl, rfl, rfl, rfl, ?_, ?_⟩
      · intro isNmra mem
        cases mem
      · intro _ _
        exact List.isChain_nil
  | succ count ih =>
      rcases inv.refreshed enabled with ⟨sent, next, done, refreshed⟩
      have same := refreshLoco_sameBus done
      have enabledNext : next.maerklinEnabled = true ∨ next.nmradccEnabled = true := by
        rw [same.maerklinEnabled, same.nmradccEnabled]
        exact enabled
      rcases ih refreshed.inv enabledNext with ⟨rest, last, doneRest, sends⟩
      refine ⟨sent :: rest, last, ?_, refreshed.sends_cons same sends⟩
      rw [refreshes, done, Option.bind_some]
      dsimp only
      rw [doneRest, Option.map_some]

/-- The packets of a locomotive, phase by phase. -/
theorem MaerklinPacketPool.items_eq (pool : MaerklinPacketPool) :
    ((List.range pool.nrOfKnownAddresses).flatMap fun unit =>
        (List.range 5).map fun phase => pool.item ⟨unit, phase⟩) =
      pool.list.flatMap fun adr => [-1, 0, 1, 2, 3].map (pool.refresh adr) := by
  rw [Known.list, List.flatMap_map]
  rfl

theorem NmraPacketPool.items_eq (pool : NmraPacketPool) :
    ((List.range pool.nrOfKnownAddresses).flatMap fun unit =>
        (List.range 2).map fun phase => pool.item ⟨unit, phase⟩) =
      pool.list.flatMap fun adr => [-1, 0].map (pool.refresh adr) := by
  rw [Known.list, List.flatMap_map]
  rfl

/-- The invariant is enough for fair refreshing. -/
theorem DdlData.RefreshInv.fair {ddl : DdlData} (inv : ddl.RefreshInv) : ddl.Fair := by
  have sends (enabled : ddl.maerklinEnabled = true ∨ ddl.nmradccEnabled = true) {count : Nat}
      {sent : List Refresh} {last : DdlData}
      (done : refreshes count ddl = some (sent, last)) : ddl.Sends sent := by
    rcases inv.sends enabled count with ⟨sent', last', done', sends⟩
    rw [done] at done'
    cases done'
    exact sends
  constructor
  · intro enabled
    exact (inv.maerklinInside enabled).unit
  · intro enabled
    exact (inv.nmraInside enabled).unit
  · intro enabled count
    rcases inv.sends enabled count with ⟨sent, last, done, _⟩
    exact ⟨_, done⟩
  · intro enabled count sent last done refreshed round enough
    have visited := (sends (Or.inl enabled) done).maerklin
    dsimp only at visited
    have whole := Place.map_visits_perm (inv.maerklinInside enabled)
      ddl.maerklinPacketPool.item enough
    rw [← visited, MaerklinPacketPool.items_eq] at whole
    exact whole
  · intro enabled count sent last done refreshed round enough
    have visited := (sends (Or.inr enabled) done).nmra
    dsimp only at visited
    have whole := Place.map_visits_perm (inv.nmraInside enabled) ddl.nmraPacketPool.item enough
    rw [← visited, NmraPacketPool.items_eq, ← List.map_take] at whole
    exact whole
  · intro maerklin nmra count sent last done
    exact (sends (Or.inl maerklin) done).alternate maerklin nmra

/-! ## Runs with updates -/

/-- A refresh, or a call of a composer that updates a pool; `init_gl_DDL` accepts
no other form of NMRA address than the two. -/
inductive RefreshAction
  | refresh
  | maerklin (call : MaerklinCall)
  | multiFunc (call : MultiFuncCall) (malloc : Option NmraPacket)
      (form : call.mode = 1 ∨ call.mode = 2)

/-- The refresh thread and the composers in any order. -/
def refreshStep (fuel : Nat) : Step DdlData RefreshAction
  | ddl, .refresh => (refreshLoco ddl).map Prod.snd
  | ddl, .maerklin call => maerklinStep ddl call
  | ddl, .multiFunc call malloc _ => multiFuncStep fuel ddl (call, malloc)

/-- Address 81 is not the first one that enters the pool that is refreshed. -/
def notIdleFirstRefreshed (ddl : DdlData) : RefreshAction → Prop
  | .maerklin call => ddl.maerklinEnabled = true → notIdleFirst ddl call
  | _ => True

/-- A Maerklin composer changes the pool and the queue only. -/
theorem compMaerklin_frame (ddl : DdlData) (call : MaerklinCall) :
    ∃ pool queue, (compMaerklin ddl call).2 =
      { ddl with maerklinPacketPool := pool, queue := queue } := by
  have type2 (maxAddress : Int) (speed1Obsolete : Bool) (ddl : DdlData)
      (address direction speed : Int) (func : Bool) (f : Fin 4 → Bool) :
      ∃ pool queue, (compMaerklinType2 maxAddress speed1Obsolete ddl address direction speed
        func f).2 = { ddl with maerklinPacketPool := pool, queue := queue } := by
    rw [compMaerklinType2]
    split
    · exact ⟨_, _, rfl⟩
    · exact ⟨_, _, rfl⟩
  cases call with
  | m1 address direction speed func locoDirection =>
      rw [compMaerklin, compMaerklin1]
      split
      · exact ⟨_, _, rfl⟩
      · exact ⟨_, _, rfl⟩
  | m2 address direction speed func f => exact type2 80 true ddl address direction speed func f
  | m4 address direction speed func f => exact type2 255 false ddl address direction speed func f
  | m5 address direction speed func f locoSpeed =>
      rw [compMaerklin, compMaerklin5]
      split
      · exact ⟨_, _, rfl⟩
      · dsimp only
        rcases type2 80 true ddl address direction (halfSteps speed locoSpeed).1 func f with
          ⟨pool, queue, first⟩
        rcases type2 80 true (compMaerklinType2 80 true ddl address direction
          (halfSteps speed locoSpeed).1 func f).2 address direction
          (halfSteps speed locoSpeed).2 func f with ⟨pool', queue', second⟩
        split
        · exact ⟨pool', queue', second.trans (by rw [first])⟩
        · exact ⟨pool, queue, first⟩

theorem multiFuncStep_frame {fuel : Nat} {ddl next : DdlData}
    {call : MultiFuncCall × Option NmraPacket} (taken : multiFuncStep fuel ddl call = some next) :
    ∃ pool queue, next = { ddl with nmraPacketPool := pool, queue := queue } := by
  rcases Option.map_eq_some_iff.mp taken with ⟨⟨rc, after⟩, done, rfl⟩
  rw [compNmraMultiFunc] at done
  split at done
  · cases done
    exact ⟨_, _, rfl⟩
  · rcases Option.bind_eq_some_iff.mp done with ⟨⟨j, packetstream⟩, _, done⟩
    rcases Option.bind_eq_some_iff.mp done with ⟨⟨jj, packetstream2⟩, _, done⟩
    dsimp only at done
    split at done
    · rcases Option.map_eq_some_iff.mp done with ⟨pool, _, done⟩
      cases done
      exact ⟨_, _, rfl⟩
    · cases done
      exact ⟨_, _, rfl⟩

/-- An update keeps the index of the refresh inside the pool. -/
theorem multiFuncStep_inv {fuel : Nat} {ddl next : DdlData} {call : MultiFuncCall}
    {malloc : Option NmraPacket} (inv : ddl.nmraPacketPool.Inv)
    (form : call.mode = 1 ∨ call.mode = 2)
    (taken : multiFuncStep fuel ddl (call, malloc) = some next) :
    next.nmraPacketPool.Inv ∧ ∀ i < ddl.nmraPacketPool.nrOfKnownAddresses,
      i < next.nmraPacketPool.nrOfKnownAddresses := by
  rcases multiFuncStep_pool taken with same | ⟨accepted, update, adr, whole, whole2, done⟩
  · rw [same]
    exact ⟨inv, fun _ inUse => inUse⟩
  · rcases multiFuncAdr_range form accepted with ⟨positive, inArray, notIdle⟩
    dsimp only at adr
    have proper : update.Proper := ⟨by omega, by omega, whole, whole2⟩
    have updated := inv.update proper (by omega) done
    refine ⟨updated, ?_⟩
    intro i inUse
    rcases updateNmraPacketPool_cases done with locked | ⟨memory, stored⟩
    · rw [locked]
      exact inUse
    · have lists := updated.lists
      rw [stored] at lists ⊢
      exact lists.lt_enter inUse

theorem initBusDDL_refreshInv {fuel : Nat} {packet : NmraPacket} {memory ddl : DdlData}
    (initialised : initBusDDL fuel (some packet) memory = some ddl) : ddl.RefreshInv := by
  rcases Option.map_eq_some_iff.mp initialised with ⟨nmraPool, nmraInit, rfl⟩
  have nmraInv (enabled : memory.nmradccEnabled = true) : nmraPool.Inv := by
    rw [if_pos enabled] at nmraInit
    exact initNmraPacketPool_inv nmraInit
  constructor
  · intro enabled
    dsimp only at enabled ⊢
    rw [if_pos enabled]
    exact initMaerklinPacketPool_inv _
  · intro enabled
    dsimp only at enabled ⊢
    rw [if_pos enabled]
    exact ⟨Nat.one_pos, Nat.succ_pos 4⟩
  · exact fun _ => Int.le_refl (-1)
  · exact nmraInv
  · intro enabled
    exact ⟨(nmraInv enabled).lists.count_pos, Nat.succ_pos 1⟩
  · exact fun _ => Int.le_refl (-1)
  · exact fun turn => turn
  · exact fun turn => Or.inr turn

theorem refreshStep_inv {fuel : Nat} {ddl next : DdlData} {action : RefreshAction}
    (inv : ddl.RefreshInv) (ok : notIdleFirstRefreshed ddl action)
    (taken : refreshStep fuel ddl action = some next) : next.RefreshInv := by
  cases action with
  | refresh =>
      rcases Option.map_eq_some_iff.mp taken with ⟨⟨sent, next⟩, done, rfl⟩
      by_cases enabled : ddl.maerklinEnabled = true ∨ ddl.nmradccEnabled = true
      · rcases inv.refreshed enabled with ⟨sent', next', done', refreshed⟩
        rw [done] at done'
        cases done'
        exact refreshed.inv
      · apply inv.of_sameBus (refreshLoco_sameBus done)
        · exact fun maerklin => absurd (Or.inl maerklin) enabled
        · exact fun nmra => absurd (Or.inr nmra) enabled
  | maerklin call =>
      rw [refreshStep] at taken
      have kept (enabled : ddl.maerklinEnabled = true) :=
        maerklinStep_inv (inv.maerklinPool enabled) (ok enabled) taken
      rw [maerklinStep, Option.some.injEq] at taken
      rcases compMaerklin_frame ddl call with ⟨pool, queue, frame⟩
      rw [frame] at taken
      subst taken
      constructor
      · exact fun enabled => (kept enabled).1
      · intro enabled
        rcases inv.maerklinInside enabled with ⟨unit, phase⟩
        exact ⟨(kept enabled).2 _ unit, phase⟩
      · exact inv.maerklinFx
      · exact inv.nmraPool
      · exact inv.nmraInside
      · exact inv.nmraFx
      · exact inv.maerklinTurn
      · exact inv.nmraTurn
  | multiFunc call malloc form =>
      rw [refreshStep] at taken
      have kept (enabled : ddl.nmradccEnabled = true) :=
        multiFuncStep_inv (inv.nmraPool enabled) form taken
      rcases multiFuncStep_frame taken with ⟨pool, queue, rfl⟩
      constructor
      · exact inv.maerklinPool
      · exact inv.maerklinInside
      · exact inv.maerklinFx
      · exact fun enabled => (kept enabled).1
      · intro enabled
        rcases inv.nmraInside enabled with ⟨unit, phase⟩
        exact ⟨(kept enabled).2 _ unit, phase⟩
      · exact inv.nmraFx
      · exact inv.maerklinTurn
      · exact inv.nmraTurn

/-- With address 81 entered first no address is known, so the index of the
refresh points to none. -/
theorem refreshStep_not_fair {fuel : Nat} {ddl next : DdlData} {action : RefreshAction}
    (inv : ddl.RefreshInv) (bad : ¬ notIdleFirstRefreshed ddl action)
    (taken : refreshStep fuel ddl action = some next) : ¬ next.Fair := by
  intro fair
  cases action with
  | refresh => exact bad trivial
  | maerklin call =>
      rw [refreshStep] at taken
      rw [notIdleFirstRefreshed, Classical.not_imp] at bad
      rcases bad with ⟨enabled, bad⟩
      rcases maerklinStep_dropped (inv.maerklinPool enabled) bad taken with ⟨dropped, _⟩
      rw [maerklinStep, Option.some.injEq] at taken
      rcases compMaerklin_frame ddl call with ⟨pool, queue, frame⟩
      have enabledNext : next.maerklinEnabled = true := by
        rw [← taken, frame]
        exact enabled
      have index := fair.maerklinIndex enabledNext
      rw [← Known.length_list, dropped] at index
      exact Nat.not_lt_zero _ index
  | multiFunc call malloc form => exact bad trivial

/-- From the initialisation on, with refreshes and calls of the composers in any
order: the known locomotives are refreshed fairly from every state reached if
and only if address 81 is not the first one that enters the Maerklin pool. -/
theorem refresh_fair_iff (fuel initFuel : Nat) (packet : NmraPacket) (memory ddl : DdlData)
    (initialised : initBusDDL initFuel (some packet) memory = some ddl)
    (actions : List RefreshAction) :
    HoldsAlong (refreshStep fuel) DdlData.Fair ddl actions ↔
      MeetsAlong (refreshStep fuel) notIdleFirstRefreshed ddl actions := by
  have sound (ddl : DdlData) (inv : ddl.RefreshInv) : ddl.Fair := inv.fair
  apply holdsAlong_iff_meetsAlong sound
  · intro ddl action next inv ok taken
    exact refreshStep_inv inv ok taken
  · intro ddl action next inv bad taken
    exact refreshStep_not_fair inv bad taken
  · exact initBusDDL_refreshInv initialised

/-- A bus with both protocols, before its initialisation. -/
def bothProtocols : DdlData :=
  { maerklinBus with nmradccEnabled := true, maerklinRefresh := false }

/-- A locomotive of each protocol, with a refresh in each turn. -/
def driveBoth : List RefreshAction :=
  [.maerklin (.m4 81 1 5 true fun _ => false), .refresh,
    .multiFunc ⟨3, 1, 5, 1, 28, 5, 1⟩ (some ⟨.zero, 0, .zero, 0⟩) (Or.inl rfl), .refresh]

theorem refresh_fair_iff_driveBoth :
    ∃ ddl, initBusDDL 100 (some ⟨.zero, 0, .zero, 0⟩) bothProtocols = some ddl ∧
      (HoldsAlong (refreshStep 500) DdlData.Fair ddl driveBoth ↔
        MeetsAlong (refreshStep 500) notIdleFirstRefreshed ddl driveBoth) := by
  have finished : (initBusDDL 100 (some ⟨.zero, 0, .zero, 0⟩) bothProtocols).isSome = true := by
    decide
  rcases Option.isSome_iff_exists.mp finished with ⟨ddl, initialised⟩
  exact ⟨ddl, initialised, refresh_fair_iff 500 100 _ _ ddl initialised driveBoth⟩

/-- The first locomotive of a bus with the Maerklin protocol has address 81. -/
theorem refreshStep_idleFirst :
    ∃ ddl, initBusDDL 100 (some ⟨.zero, 0, .zero, 0⟩) maerklinBus = some ddl ∧
      ¬ HoldsAlong (refreshStep 500) DdlData.Fair ddl
        [.maerklin (.m4 81 1 5 true fun _ => false)] := by
  have initialised : (initBusDDL 100 (some ⟨.zero, 0, .zero, 0⟩) maerklinBus).isSome = true := rfl
  rcases Option.isSome_iff_exists.mp initialised with ⟨ddl, initialised⟩
  refine ⟨ddl, initialised, ?_⟩
  intro holds
  have inv := initBusDDL_refreshInv initialised
  have bad : ¬ notIdleFirstRefreshed ddl (.maerklin (.m4 81 1 5 true fun _ => false)) := by
    cases initialised
    intro ok
    exact ok rfl rfl rfl rfl
  have taken : refreshStep 500 ddl (.maerklin (.m4 81 1 5 true fun _ => false)) = some _ := rfl
  exact refreshStep_not_fair inv bad taken (holds.2 _ taken).head

end Srcpd.Ddl
