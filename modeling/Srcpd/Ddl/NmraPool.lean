import Srcpd.Ddl.Nmra

/-!
# The NMRA packet pool

The pool lists the identifiers of all locomotives it has packets for.  The idle
packet has an identifier that no locomotive has, so the table of known addresses
is right whatever the order of the updates, and each listed identifier has the
packets of its last update.
-/

namespace Srcpd.Ddl

open Srcpd.Pool Srcpd.Queue Srcpd.Transition

/-! ## The length of a translated packet -/

/-- Length of the packet stream behind one round of a translation routine. -/
def roundLength {σ : Type} (packetstream : σ → Packetstream) :
    σ ⊕ (Nat × Packetstream) → Nat
  | .inl state => (packetstream state).length
  | .inr result => result.2.length

@[simp]
theorem length_emptyPacketstream : emptyPacketstream.length = pktsize :=
  List.length_replicate

theorem v1Body_length {forceTranslation : Bool} {s : V1State}
    (whole : s.packetstream.length = pktsize) :
    roundLength V1State.packetstream (v1Body forceTranslation s) = pktsize := by
  have backtrack : (v1Backtrack forceTranslation s).packetstream.length = pktsize := by
    rw [v1Backtrack]
    split <;> exact whole
  have found (i : Nat) : (v1Found i s).packetstream.length = pktsize := by
    rw [v1Found, List.length_set, whole]
  rw [v1Body]
  split
  · generalize findPattern (s.buffer.drop s.pBs) (s.i + 1).toNat = pattern
    cases pattern with
    | none => dsimp only; split_ifs <;> simp [roundLength, v1Restart, backtrack]
    | some i => dsimp only; split_ifs <;> simp [roundLength, v1Restart, found]
  · split <;> simp [roundLength, whole]

theorem v2Body_length {bitstream : Bitstream} {s : V2State}
    (whole : s.packetstream.length = pktsize) :
    roundLength V2State.packetstream (v2Body bitstream s) = pktsize := by
  rw [v2Body]
  generalize findPattern (bitstream.drop s.position) (s.i + 1).toNat = pattern
  cases pattern with
  | none => dsimp only; split_ifs <;> simp [roundLength, whole]
  | some i => dsimp only; split_ifs <;> simp [roundLength, whole]

theorem v3Body_length {buffer : Bitstream} {bufEnd : Nat} {s : V3State}
    (whole : s.packetstream.length = pktsize) :
    roundLength V3State.packetstream (v3Body buffer bufEnd s) = pktsize := by
  rw [v3Body]
  split_ifs <;> simp [roundLength, v3Emit, v3Restart, whole]

theorem iterate_length {σ : Type} {packetstream : σ → Packetstream}
    {body : σ → σ ⊕ (Nat × Packetstream)}
    (round : ∀ state, (packetstream state).length = pktsize →
      roundLength packetstream (body state) = pktsize)
    {fuel : Nat} {state : σ} {result : Nat × Packetstream}
    (whole : (packetstream state).length = pktsize)
    (finished : iterate body fuel state = some result) : result.2.length = pktsize := by
  have continues (state next : σ) (whole : (packetstream state).length = pktsize)
      (taken : body state = .inl next) : (packetstream next).length = pktsize := by
    have after := round state whole
    rw [taken] at after
    exact after
  have exits (state : σ) (result : Nat × Packetstream)
      (whole : (packetstream state).length = pktsize) (left : body state = .inr result) :
      result.2.length = pktsize := by
    have after := round state whole
    rw [left] at after
    exact after
  exact iterate_partial continues exits whole finished

/-- Whatever the version, the translation fills a whole packet stream. -/
theorem translateBitstream2Packetstream_length {nmradccTrV : Int} {fuel : Nat}
    {bitstream : Bitstream} {forceTranslation : Bool} {result : Nat × Packetstream}
    (finished : translateBitstream2Packetstream nmradccTrV fuel bitstream forceTranslation =
      some result) : result.2.length = pktsize := by
  rw [translateBitstream2Packetstream] at finished
  split_ifs at finished
  · exact iterate_length (fun _ => v1Body_length) length_emptyPacketstream finished
  · exact iterate_length (fun _ => v2Body_length) length_emptyPacketstream finished
  · exact iterate_length (fun _ => v3Body_length) length_emptyPacketstream finished
  · cases finished
    exact length_emptyPacketstream

/-! ## Identifiers -/

/-- What the range check says about the identifier. -/
theorem multiFuncAdr_range {call : MultiFuncCall} (form : call.mode = 1 ∨ call.mode = 2)
    (accepted : call.accepted = true) :
    0 < multiFuncAdr call.address call.mode ∧
      multiFuncAdr call.address call.mode ≤ maxNmraAddress ∧
      multiFuncAdr call.address call.mode ≠ nmraIdle := by
  simp only [MultiFuncCall.accepted, multiFuncAccepts, Bool.not_eq_true', Bool.or_eq_false_iff,
    decide_eq_false_iff_not, Bool.and_eq_false_iff, beq_eq_false_iff_ne] at accepted
  rcases form with short | long
  · simp only [multiFuncAdr, short, maxNmraAddress, nmraIdle] at accepted ⊢
    norm_num at accepted ⊢
    omega
  · simp only [multiFuncAdr, long, maxNmraAddress, nmraIdle, addr14bitOffset] at accepted ⊢
    norm_num at accepted ⊢
    omega

theorem multiFuncAdr_injective {call call' : MultiFuncCall}
    (form : call.mode = 1 ∨ call.mode = 2) (form' : call'.mode = 1 ∨ call'.mode = 2)
    (accepted : call.accepted = true) (accepted' : call'.accepted = true)
    (same : multiFuncAdr call.address call.mode = multiFuncAdr call'.address call'.mode) :
    call.mode = call'.mode ∧ call.address = call'.address := by
  simp only [MultiFuncCall.accepted, multiFuncAccepts, Bool.not_eq_true', Bool.or_eq_false_iff,
    decide_eq_false_iff_not, Bool.and_eq_false_iff, beq_eq_false_iff_ne] at accepted accepted'
  simp only [multiFuncAdr, addr14bitOffset] at same
  rcases form with mode | mode <;> rcases form' with mode' | mode' <;>
    simp only [mode, mode'] at same accepted accepted' ⊢ <;>
    norm_num at same accepted accepted' ⊢ <;>
    omega

/-! ## The invariant of the pool -/

/-- The identifiers of the updates for locomotives. -/
def locomotives (updates : List NmraUpdate) : List Nat :=
  (updates.map NmraUpdate.adr).filter fun adr => adr ≠ nmraIdle

/-- The packet holds the bytes and lengths of the update. -/
structure NmraPacket.Stores (stored : NmraPacket) (update : NmraUpdate) : Prop where
  packetSize : stored.packetSize = update.packetSize
  packet : stored.packet.val.take stored.packetSize = update.packet.take update.packetSize
  fxPacketSize : stored.fxPacketSize = update.fxPacketSize
  fxPacket : stored.fxPacket.val.take stored.fxPacketSize =
    update.fxPacket.take update.fxPacketSize

/-- The pool is what the updates so far made it. -/
structure NmraPacketPool.Faithful (pool : NmraPacketPool) : Prop where
  nodup : pool.list.Nodup
  known : ∀ adr, adr ∈ pool.list ↔
    if locomotives pool.updates = [] then adr = nmraIdle else adr ∈ locomotives pool.updates
  stored : ∀ adr ∈ pool.list, ∃ update packet,
    lastUpdate NmraUpdate.adr pool.updates adr = some update ∧
      pool.packets adr = some packet ∧ packet.Stores update
  count : pool.nrOfKnownAddresses ≤ maxNmraAddress

/-- Arguments that the composer and the initialisation give. -/
structure NmraUpdate.Proper (update : NmraUpdate) : Prop where
  positive : 0 < update.adr
  inArray : update.adr ≤ maxNmraAddress
  packet : update.packet.length = pktsize
  fxPacket : update.fxPacket.length = pktsize

/-- The pool lists the addresses it was updated for, the idle packet among them, and
keeps the last packets of each. -/
structure NmraPacketPool.Inv (pool : NmraPacketPool) : Prop where
  lists : pool.Lists nmraIdle (locomotives pool.updates)
  behind : ∀ i, pool.nrOfKnownAddresses ≤ i → pool.knownAddresses i = 0
  proper : ∀ update ∈ pool.updates, update.Proper
  idle : ∃ update ∈ pool.updates, update.adr = nmraIdle
  stored : ∀ adr update, lastUpdate NmraUpdate.adr pool.updates adr = some update →
    ∃ packet, pool.packets adr = some packet ∧ packet.Stores update

theorem locomotives_append_singleton (updates : List NmraUpdate) {update : NmraUpdate}
    (notIdle : update.adr ≠ nmraIdle) :
    locomotives (updates ++ [update]) = locomotives updates ++ [update.adr] := by
  simp [locomotives, notIdle]

variable {pool next : NmraPacketPool}

/-- Every listed identifier comes from an update. -/
theorem NmraPacketPool.Inv.exists_update (inv : pool.Inv) {adr : Nat} (mem : adr ∈ pool.list) :
    ∃ update ∈ pool.updates, update.adr = adr := by
  rw [inv.lists.mem_iff] at mem
  split at mem
  · rw [mem]
    exact inv.idle
  · rw [locomotives, List.mem_filter, List.mem_map] at mem
    exact mem.1

theorem NmraPacketPool.Inv.faithful (inv : pool.Inv) : pool.Faithful where
  nodup := inv.lists.nodup
  known := inv.lists.mem_iff
  stored := by
    intro adr mem
    obtain ⟨update, updated, rfl⟩ := inv.exists_update mem
    obtain ⟨last, found⟩ := exists_lastUpdate NmraUpdate.adr updated
    obtain ⟨packet, present, stores⟩ := inv.stored _ _ found
    exact ⟨last, packet, found, present, stores⟩
  count := by
    have inRange : pool.list.toFinset ⊆ Finset.Icc 1 maxNmraAddress := by
      intro adr mem
      obtain ⟨update, updated, rfl⟩ := inv.exists_update (List.mem_toFinset.mp mem)
      have proper := inv.proper update updated
      exact Finset.mem_Icc.mpr ⟨proper.positive, proper.inArray⟩
    have bound := Finset.card_le_card inRange
    rw [List.toFinset_card_of_nodup inv.lists.nodup, Known.length_list, Nat.card_Icc] at bound
    exact bound

/-- The extra entry the search looks at is never an identifier. -/
theorem NmraPacketPool.Inv.found_iff (inv : pool.Inv) {adr : Nat} (positive : 0 < adr) :
    pool.found adr = true ↔ adr ∈ pool.list := by
  rw [NmraPacketPool.found, ← Known.search_iff]
  have extra : pool.knownAddresses pool.nrOfKnownAddresses ≠ adr := by
    rw [inv.behind _ le_rfl]
    exact positive.ne
  simp [Known.search, List.range_succ, extra]

theorem PacketBuffer.take_memcpy_whole (buffer : PacketBuffer) {source : Packetstream}
    (whole : source.length = pktsize) (size : Nat) :
    (buffer.memcpy source size).val.take size = source.take size := by
  have enough : min size pktsize ≤ source.length := whole ▸ Nat.min_le_right _ _
  rw [buffer.take_memcpy enough, ← whole, ← List.take_eq_take_min]

/-- The memory of a completed update holds its packets. -/
theorem NmraUpdate.Proper.stores {update : NmraUpdate} (proper : update.Proper)
    (memory : NmraPacket) : (memory.store update).Stores update where
  packetSize := rfl
  packet := memory.packet.take_memcpy_whole proper.packet _
  fxPacketSize := rfl
  fxPacket := memory.fxPacket.take_memcpy_whole proper.fxPacket _

/-- What an update does: nothing but locking the pool, or storing the packets
and entering the identifier. -/
theorem updateNmraPacketPool_cases {malloc : Option NmraPacket} {update : NmraUpdate}
    (done : updateNmraPacketPool pool malloc update = some next) :
    next = { pool with locked := true } ∨
      ∃ memory : NmraPacket, next =
        { toKnown := pool.enter nmraIdle update.adr (pool.found update.adr)
          packets := Function.update pool.packets update.adr (some (memory.store update))
          locked := false
          updates := pool.updates ++ [update] } := by
  rw [updateNmraPacketPool] at done
  split at done
  · cases done
  · cases memory : pool.packets update.adr <|> malloc with
    | none =>
        rw [memory] at done
        exact Or.inl (Option.some.inj done).symm
    | some memory' =>
        rw [memory] at done
        exact Or.inr ⟨memory', (Option.some.inj done).symm⟩

/-- An entry of an address that is not the idle one leaves zeros behind. -/
theorem enter_behind (inv : pool.Inv) {adr : Nat} (positive : 0 < adr)
    (notIdle : adr ≠ nmraIdle) {i : Nat}
    (beyond : (pool.enter nmraIdle adr (pool.found adr)).nrOfKnownAddresses ≤ i) :
    (pool.enter nmraIdle adr (pool.found adr)).knownAddresses i = 0 := by
  have count := inv.lists.count_pos
  cases found : pool.found adr with
  | true =>
      have listed := (inv.found_iff positive).mp found
      have several : ¬ pool.idleOnly nmraIdle = true := by
        rw [inv.lists.idleOnly_iff]
        intro none
        rw [inv.lists.mem_iff, if_pos none] at listed
        exact notIdle listed
      rw [found] at beyond
      rw [Known.enter, if_pos rfl, if_neg several] at beyond ⊢
      exact inv.behind i beyond
  | false =>
      rw [found] at beyond
      rw [Known.enter, if_neg Bool.false_ne_true] at beyond ⊢
      change (if pool.idleOnly nmraIdle then 0 else pool.nrOfKnownAddresses) + 1 ≤ i at beyond
      have other : i ≠ (if pool.idleOnly nmraIdle then 0 else pool.nrOfKnownAddresses) :=
        Nat.ne_of_gt beyond
      apply (Function.update_of_ne other _ _).trans
      apply inv.behind
      split at beyond
      · rename_i idleOnly
        rw [Known.idleOnly, Bool.and_eq_true, beq_iff_eq] at idleOnly
        omega
      · omega

theorem NmraPacketPool.Inv.update (inv : pool.Inv) {malloc : Option NmraPacket}
    {update : NmraUpdate} (proper : update.Proper) (notIdle : update.adr ≠ nmraIdle)
    (done : updateNmraPacketPool pool malloc update = some next) : next.Inv := by
  rcases updateNmraPacketPool_cases done with rfl | ⟨memory, rfl⟩
  · exact ⟨inv.lists, inv.behind, inv.proper, inv.idle, inv.stored⟩
  · refine ⟨?_, ?_, ?_, ?_, ?_⟩
    · show (pool.enter nmraIdle update.adr (pool.found update.adr)).Lists nmraIdle
        (locomotives (pool.updates ++ [update]))
      rw [locomotives_append_singleton _ notIdle]
      exact inv.lists.enter (inv.found_iff proper.positive) fun _ => notIdle
    · intro i beyond
      exact enter_behind inv proper.positive notIdle beyond
    · intro other mem
      rcases List.mem_append.mp mem with mem | mem
      · exact inv.proper other mem
      · rw [List.mem_singleton.mp mem]
        exact proper
    · obtain ⟨idle, mem, isIdle⟩ := inv.idle
      exact ⟨idle, List.mem_append_left _ mem, isIdle⟩
    · intro adr last found
      dsimp only at found ⊢
      rw [lastUpdate_append_singleton] at found
      split at found
      · rename_i same
        cases found
        rw [← same, Function.update_self]
        exact ⟨_, rfl, proper.stores memory⟩
      · rename_i other
        rw [Function.update_of_ne (Ne.symm other)]
        exact inv.stored adr last found

/-- The pool that lists nothing but the idle packet. -/
theorem NmraUpdate.Proper.inv_idle {update : NmraUpdate} (proper : update.Proper)
    (idle : update.adr = nmraIdle) (memory : NmraPacket)
    (done : updateNmraPacketPool .empty (some memory) update = some pool) : pool.Inv := by
  obtain ⟨adr, packet, packetSize, fxPacket, fxPacketSize⟩ := update
  obtain rfl : adr = nmraIdle := idle
  cases done
  refine ⟨Known.lists_init (fun _ => 0) nmraIdle, ?_, ?_, ?_, ?_⟩
  · intro i beyond
    exact Function.update_of_ne (Nat.ne_of_gt beyond) _ _
  · intro update mem
    rw [List.mem_singleton.mp mem]
    exact proper
  · exact ⟨_, List.mem_singleton_self _, rfl⟩
  · intro adr last found
    rw [lastUpdate_append_singleton] at found
    split at found
    · rename_i same
      cases found
      rw [← same]
      refine ⟨memory.store _, ?_, proper.stores memory⟩
      show Function.update NmraPacketPool.empty.packets nmraIdle _ nmraIdle = _
      exact Function.update_self _ _ _
    · cases found

/-- The initialisation leaves the idle packet. -/
theorem initNmraPacketPool_inv {nmradccTrV : Int} {fuel : Nat} {memory : NmraPacket}
    (initialised : initNmraPacketPool nmradccTrV fuel (some memory) = some pool) : pool.Inv := by
  rw [initNmraPacketPool] at initialised
  cases translated : translateBitstream2Packetstream nmradccTrV fuel idlePacket false with
  | none =>
      rw [translated] at initialised
      cases initialised
  | some result =>
      obtain ⟨j, idlePktstr⟩ := result
      have whole : idlePktstr.length = pktsize := translateBitstream2Packetstream_length translated
      have positive : 0 < nmraIdle := by decide
      have inArray : nmraIdle ≤ maxNmraAddress := by decide
      rw [translated] at initialised
      dsimp only at initialised
      split at initialised
      · cases initialised
      · exact NmraUpdate.Proper.inv_idle ⟨positive, inArray, whole, whole⟩ rfl memory initialised

/-! ## Runs of the composer -/

/-- A call, with the memory an allocation would yield. -/
def multiFuncStep (fuel : Nat) : Step DdlData (MultiFuncCall × Option NmraPacket) :=
  fun ddl call => (compNmraMultiFunc fuel call.2 ddl call.1).map Prod.snd

/-- A call leaves the pool alone or updates it under its identifier. -/
theorem multiFuncStep_pool {fuel : Nat} {ddl ddl' : DdlData}
    {call : MultiFuncCall × Option NmraPacket}
    (taken : multiFuncStep fuel ddl call = some ddl') :
    ddl'.nmraPacketPool = ddl.nmraPacketPool ∨
      call.1.accepted = true ∧ ∃ update : NmraUpdate,
        update.adr = (multiFuncAdr call.1.address call.1.mode).toNat ∧
          update.packet.length = pktsize ∧ update.fxPacket.length = pktsize ∧
          updateNmraPacketPool ddl.nmraPacketPool call.2 update = some ddl'.nmraPacketPool := by
  obtain ⟨⟨rc, after⟩, done, rfl⟩ := Option.map_eq_some_iff.mp taken
  rw [compNmraMultiFunc] at done
  by_cases accepted : call.1.accepted = true
  · rw [if_neg (by rw [accepted]; decide)] at done
    obtain ⟨⟨j, packetstream⟩, first, done⟩ := Option.bind_eq_some_iff.mp done
    obtain ⟨⟨jj, packetstream2⟩, second, done⟩ := Option.bind_eq_some_iff.mp done
    have whole : packetstream.length = pktsize := translateBitstream2Packetstream_length first
    have whole2 : packetstream2.length = pktsize := by
      cases streams : (multiFuncStreams call.1.address call.1.direction call.1.speed call.1.func
          call.1.nspeed call.1.nfuncs call.1.mode).2 with
      | none =>
          rw [streams] at second
          cases second
          exact whole
      | some bitstream2 =>
          rw [streams] at second
          exact translateBitstream2Packetstream_length second
    dsimp only at done
    split at done
    · obtain ⟨pool, updated, done⟩ := Option.map_eq_some_iff.mp done
      cases done
      exact Or.inr ⟨accepted, _, rfl, whole, whole2, updated⟩
    · cases done
      exact Or.inl rfl
  · rw [if_pos (by rw [Bool.not_eq_true] at accepted; rw [accepted]; rfl)] at done
    cases done
    exact Or.inl rfl

/-- In every run of calls after the initialisation, with modes 1 and 2, any
arguments in any order, any version of the translation and any outcome of the
allocations, the pool is what the updates so far made it; and different
locomotives have different identifiers, none of them that of the idle packet. -/
theorem nmraPacketPool_faithful (fuel initFuel : Nat) (memory : NmraPacket)
    (ddl last : DdlData) (calls : List (MultiFuncCall × Option NmraPacket))
    (initialised : initNmraPacketPool ddl.nmradccTrV initFuel (some memory) =
      some ddl.nmraPacketPool)
    (forms : ∀ call ∈ calls, call.1.mode = 1 ∨ call.1.mode = 2)
    (executed : run (multiFuncStep fuel) ddl calls = some last) :
    last.nmraPacketPool.Faithful ∧
      ∀ call ∈ calls, call.1.accepted = true →
        multiFuncAdr call.1.address call.1.mode ≠ nmraIdle ∧
          ∀ call' ∈ calls, call'.1.accepted = true →
            multiFuncAdr call.1.address call.1.mode =
              multiFuncAdr call'.1.address call'.1.mode →
            call.1.mode = call'.1.mode ∧ call.1.address = call'.1.address := by
  constructor
  · have preserved (ddl : DdlData) (call : MultiFuncCall × Option NmraPacket) (next : DdlData)
        (inv : ddl.nmraPacketPool.Inv) (form : call.1.mode = 1 ∨ call.1.mode = 2)
        (taken : multiFuncStep fuel ddl call = some next) : next.nmraPacketPool.Inv := by
      rcases multiFuncStep_pool taken with same | ⟨accepted, update, adr, whole, whole2, done⟩
      · rw [same]
        exact inv
      · obtain ⟨positive, inArray, notIdle⟩ := multiFuncAdr_range form accepted
        have proper : update.Proper := ⟨by omega, by omega, whole, whole2⟩
        exact inv.update proper (by omega) done
    have meets := meetsAlong_of_forall_mem (multiFuncStep fuel) forms ddl
    exact (run_invariant_of_meets preserved (initNmraPacketPool_inv initialised) meets
      executed).faithful
  · intro call mem accepted
    refine ⟨(multiFuncAdr_range (forms call mem) accepted).2.2, ?_⟩
    intro call' mem' accepted' same
    exact multiFuncAdr_injective (forms call mem) (forms call' mem') accepted accepted' same

/-- A bus with nothing but the NMRA protocol and this pool. -/
def nmraBus (pool : NmraPacketPool) : DdlData :=
  { nmradccTrV := 3
    maerklinEnabled := false
    nmradccEnabled := true
    queue := queueInit
    nmraPacketPool := pool
    maerklinPacketPool := ⟨⟨fun _ => 0, 0⟩, fun _ => ⟨[], fun _ => []⟩, []⟩
    lastRefreshedMaerklinLoco := 0
    lastRefreshedMaerklinFx := -1
    lastRefreshedNmraLoco := 0
    lastRefreshedNmraFx := -1
    maerklinRefresh := false }

/-- Address 3 in the short and in the long form. -/
def shortAndLong : List (MultiFuncCall × Option NmraPacket) :=
  [(⟨3, 1, 5, 1, 28, 5, 1⟩, some ⟨.zero, 0, .zero, 0⟩),
    (⟨3, 0, 7, 0, 28, 0, 2⟩, some ⟨.zero, 0, .zero, 0⟩)]

theorem nmraPacketPool_faithful_shortAndLong :
    ∃ pool last, run (multiFuncStep 500) (nmraBus pool) shortAndLong = some last ∧
      last.nmraPacketPool.Faithful ∧
        ∀ call ∈ shortAndLong, call.1.accepted = true →
          multiFuncAdr call.1.address call.1.mode ≠ nmraIdle ∧
            ∀ call' ∈ shortAndLong, call'.1.accepted = true →
              multiFuncAdr call.1.address call.1.mode =
                multiFuncAdr call'.1.address call'.1.mode →
              call.1.mode = call'.1.mode ∧ call.1.address = call'.1.address := by
  have finished : ((initNmraPacketPool 3 100 (some ⟨.zero, 0, .zero, 0⟩)).bind fun pool =>
      run (multiFuncStep 500) (nmraBus pool) shortAndLong).isSome = true := by
    decide
  obtain ⟨last, ended⟩ := Option.isSome_iff_exists.mp finished
  obtain ⟨pool, initialised, executed⟩ := Option.bind_eq_some_iff.mp ended
  exact ⟨pool, last, executed, nmraPacketPool_faithful 500 100 _ (nmraBus pool) last shortAndLong
    initialised (by decide) executed⟩

end Srcpd.Ddl
