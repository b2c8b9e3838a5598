import Srcpd.Ddl.MotorolaRuns
import Srcpd.Ddl.RefreshThread

/-!
# From a command to the decoder

A composer stores a command in the pool and then puts one of its packets into the queue;
in between and behind it `thr_refresh_cycle` sends packets and refreshes, and sessions change
the power.  `run_decoder` says that in every interleaving a decoder has heard what the last
command for its address says as soon as no packet for this address waits.
-/

namespace Srcpd.Ddl.TrackRuns

open Srcpd.Motorola Srcpd.Pool Srcpd.Queue Srcpd.Transition
open Srcpd.Ddl.RefreshThread (Config Input Transmission threadStep)

/-! ## What a decoder hears -/

/-- Speed and F0 that a decoder with this address reads from a packet. -/
def tells (address : Int) (packet : Packetstream) : Option (Nat × Bool) :=
  (readPacket packet).bind fun message =>
    if message.code = addressCode address then some (message.speed, message.f0) else none

/-- The last packet decides. -/
def heard (address : Int) (writes : List Packetstream) : Option (Nat × Bool) :=
  (writes.filterMap (tells address)).getLast?

theorem heard_append (address : Int) (first second : List Packetstream) :
    heard address (first ++ second) = (heard address second).or (heard address first) := by
  rw [heard, List.filterMap_append, List.getLast?_append]
  rfl

/-- Packets of which each that is for the decoder tells the same. -/
theorem heard_eq {address : Int} {writes : List Packetstream} {told : Option (Nat × Bool)}
    (one : told = none ∨ ∃ bytes ∈ writes, tells address bytes = told)
    (all : ∀ bytes ∈ writes, tells address bytes = told ∨ tells address bytes = none) :
    heard address writes = told := by
  rw [heard]
  cases last : (writes.filterMap (tells address)).getLast? with
  | none =>
      rcases one with none | ⟨bytes, mem, told⟩
      · exact none.symm
      · rw [← told]
        exact (List.filterMap_eq_nil_iff.mp (List.getLast?_eq_none_iff.mp last) bytes mem).symm
  | some value =>
      rcases List.mem_filterMap.mp (List.mem_of_getLast? last) with ⟨bytes, mem, read⟩
      rcases all bytes mem with same | silent
      · rw [← same, read]
      · rw [silent] at read
        cases read

theorem tells_message {address other : Int} (range : 0 ≤ address ∧ address ≤ 255)
    (range' : 0 ≤ other ∧ other ≤ 255) {packet : Packetstream} {func : Bool} {speed : Nat}
    {part : Part} (read : readPacket packet = some (messageOf other func speed part)) :
    tells address packet = if other = address then some (speed, func) else none := by
  rw [tells, read, Option.bind_some]
  by_cases same : other = address
  · rw [if_pos same, same]
    exact if_pos rfl
  · rw [if_neg same]
    exact if_neg fun code => same (addressCode_injective range' range code)

/-- What a packet of the queue tells. -/
def dataTells (address : Int) (data : QData) : Option (Nat × Bool) :=
  tells address (data.packet.val.take data.packetSize)

/-! ## Commands -/

/-- A command for a locomotive, as `send_gl` gives it to the composers. -/
structure Type2Command.InRange (command : Type2Command) : Prop where
  address : 0 ≤ command.address ∧ command.address ≤ if command.extended then 255 else 80
  speed : 0 ≤ command.speed ∧ command.speed ≤ 15

/-- Speed 1 is sent with 255 addresses only. -/
def told (command : Type2Command) : Nat × Bool :=
  (sentSpeed (!command.extended) command.speed, command.func)

/-- What a packet of the command tells to a decoder. -/
def toldTo (command : Type2Command) (address : Int) : Option (Nat × Bool) :=
  if command.address = address then some (told command) else none

/-- The entry and the packet of a command tell it to its decoder and to no other one. -/
structure Stores (command : Type2Command) (ddl next : DdlData) (entry : MaerklinPacket)
    (data : QData) : Prop where
  pool : next.maerklinPacketPool =
    updateMaerklinPacketPool ddl.maerklinPacketPool ⟨command.address.toNat, entry⟩
  added : next.queue.added = ddl.queue.added ++ [data]
  fits : RefreshThread.QData.Fits data
  length : ∀ packet ∈ entry.all, packet.length = 18
  entry : ∀ address : Int, 0 ≤ address ∧ address ≤ 255 → ∀ packet ∈ entry.all,
    tells address packet = toldTo command address
  data : ∀ address : Int, 0 ≤ address ∧ address ≤ 255 →
    dataTells address data = toldTo command address

theorem length_of_readPairs {packet : Packetstream} {pairs : List (Bool × Bool)}
    (read : readPairs packet = some pairs) : packet.length = 2 * pairs.length := by
  induction packet using readPairs.induct generalizing pairs with
  | case1 =>
      cases read
      rfl
  | case2 byte => cases read
  | case3 first second rest ih =>
      rw [readPairs] at read
      rcases Option.bind_eq_some_iff.mp read with ⟨half, -, read⟩
      rcases Option.bind_eq_some_iff.mp read with ⟨half', -, read⟩
      rcases Option.map_eq_some_iff.mp read with ⟨tail, tailed, rfl⟩
      rw [List.length_cons, List.length_cons, List.length_cons, ih tailed]
      omega

/-- Only nine pairs are a message. -/
theorem length_of_readPacket {packet : Packetstream} {message : Message}
    (read : readPacket packet = some message) : packet.length = 18 := by
  rcases Option.bind_eq_some_iff.mp read with ⟨pairs, paired, read⟩
  rcases Option.map_eq_some_iff.mp read with ⟨tail, tailed, -⟩
  rw [length_of_readPairs paired]
  unfold readTail at tailed
  split at tailed
  · rename_i behind
    have five := congrArg List.length behind
    rw [List.length_drop] at five
    change pairs.length - 4 = 5 at five
    omega
  · cases tailed

theorem added_foldl_put (sent : List QData) (queue : Log QData) :
    (sent.foldl (Log.put qsize) queue).added = queue.added ++ sent := by
  induction sent generalizing queue with
  | nil => exact (List.append_nil _).symm
  | cons data sent ih =>
      rw [List.foldl_cons, ih, Log.put, List.append_assoc]
      rfl

theorem Type2Command.InRange.stores {command : Type2Command}
    (inRange : Type2Command.InRange command) (ddl : DdlData) :
    ∃ entry data, Stores command ddl (command.process ddl).2 entry data := by
  have bounds : 0 ≤ command.address ∧ command.address ≤ 255 := by
    have range := inRange.address
    split at range <;> omega
  rcases compMaerklinType2_sends (!command.extended) ddl command.direction command.func command.f
    inRange.address inRange.speed with ⟨done, queued, sends⟩
  have composed := RefreshThread.compMaerklinType2_composed
    (if command.extended then 255 else 80) (!command.extended) ddl command.address
    command.direction command.speed command.func command.f
  rcases compMaerklinType2_pool (if command.extended then 255 else 80) (!command.extended) ddl
    command.address command.direction command.speed command.func command.f with
    ⟨-, -, entry, pool⟩ | ⟨-, rejected⟩
  · rw [Type2Command.process_eq]
    generalize compMaerklinType2 (if command.extended then 255 else 80) (!command.extended) ddl
      command.address command.direction command.speed command.func command.f = result
      at done sends composed pool
    rcases List.forall₂_cons_right_iff.mp sends.packets with ⟨data, rest, tellsData, nothing, rfl⟩
    cases List.forall₂_nil_right_iff.mp nothing
    rcases tellsData with ⟨-, part, -, message⟩
    rcases composed with ⟨sent, queue, fits⟩
    have same : sent = [data] := by
      have added := sends.added
      rw [queue, added_foldl_put] at added
      exact List.append_cancel_left added
    have stored := sends.pool _ rfl
    have place : result.2.maerklinPacketPool.packets command.address.toNat = entry := by
      rw [pool]
      exact Function.update_self _ _ _
    rw [place] at stored
    refine ⟨entry, data, pool, sends.added, fits data (same ▸ List.mem_singleton.mpr rfl), ?_, ?_,
      ?_⟩
    · intro packet mem
      rcases List.mem_cons.mp mem with rfl | mem
      · exact length_of_readPacket stored.direction
      · rcases List.mem_map.mp mem with ⟨j, -, rfl⟩
        exact length_of_readPacket (stored.function j)
    · intro address range packet mem
      rcases List.mem_cons.mp mem with rfl | mem
      · exact tells_message range bounds stored.direction
      · rcases List.mem_map.mp mem with ⟨j, -, rfl⟩
        exact tells_message range bounds (stored.function j)
    · intro address range
      exact tells_message range bounds message
  · rw [rejected] at done
    cases done

/-! ## The bus -/

/-- The bus, the packet that a composer has not added yet, and the calls so far. -/
structure State where
  bus : RefreshThread.State
  adding : List QData
  calls : List Type2Command

/-- The steps of the sessions with a locomotive command, and of the refresh. -/
inductive Action
  | command (command : Type2Command)
  | queueAdd
  | bus (action : RefreshThread.Action)

/-- A composer stores its packets, and adds one of them with its next step; all composers run
in the thread of the bus, one after the other. -/
def step (config : Config) : Step State Action
  | state, .command command =>
      let next := (command.process state.bus.ddl).2
      if state.adding = [] then
        some {
          bus := { state.bus with
            ddl := { state.bus.ddl with maerklinPacketPool := next.maerklinPacketPool } }
          adding := next.queue.added.drop state.bus.ddl.queue.added.length
          calls := state.calls ++ [command] }
      else none
  | state, .queueAdd =>
      match state.adding with
      | [] => none
      | data :: rest =>
          (RefreshThread.step config state.bus (.add data)).map fun bus =>
            { state with bus := bus, adding := rest }
  | state, .bus action =>
      (RefreshThread.step config state.bus action).map fun bus => { state with bus := bus }

/-- The packets that are not sent yet, in their order. -/
def State.waiting (state : State) : List QData :=
  state.bus.place.packet ++ state.bus.ddl.queue.ring.contents qsize ++ state.adding

/-- What the decoder has heard last; only the Maerklin protocol is enabled. -/
def State.decoder (config : Config) (address : Int) (state : State) : Option (Nat × Bool) :=
  heard address (state.bus.transmitted.flatMap (Transmission.writes config false))

/-- The queue has room for another packet. -/
def HasRoom (state : State) : Prop :=
  state.bus.ddl.queue.ring.length qsize + 1 < qsize

/-- Commands are in the ranges of their protocol and not for address 81, each packet finds a
free slot, packets of other composers are not for the decoder, and the line can be set to the
mode of a packet. -/
def Proper (address : Int) (state : State) : Action → Prop
  | .command command => Type2Command.InRange command ∧ command.address ≠ maerklinIdle
  | .queueAdd => HasRoom state
  | .bus (.add data) =>
      RefreshThread.QData.Fits data ∧ HasRoom state ∧ dataTells address data = none
  | .bus (.updatePools _ _) => False
  | .bus (.thread input) => input.modeSet = true
  | .bus _ => True

/-! ## What a step of the thread does -/

theorem refreshInv_queue {ddl : DdlData} (inv : ddl.RefreshInv) (queue : Log QData) :
    { ddl with queue := queue }.RefreshInv :=
  ⟨inv.maerklinPool, inv.maerklinInside, inv.maerklinFx, inv.nmraPool, inv.nmraInside, inv.nmraFx,
    inv.maerklinTurn, inv.nmraTurn⟩

/-- The thread sends nothing or the idle sequence, or the packet it holds, or a refresh. -/
inductive Effect (state next : RefreshThread.State) (input : Input) : Prop
  | quiet (more : List Transmission) (idle : more = [] ∨ more = [.idle])
      (transmitted : next.transmitted = state.transmitted ++ more)
      (ddl : next.ddl = { state.ddl with queue := next.ddl.queue })
  | sent (data : QData) (place : state.place = .send data)
      (transmitted : next.transmitted = state.transmitted ++ [.command data input.modeSet])
      (ddl : next.ddl = state.ddl)
  | refreshed (sent : Refresh) (done : refreshLoco state.ddl = some (sent, next.ddl))
      (transmitted : next.transmitted = state.transmitted ++ [.refresh sent input.modeSet])

theorem fetch_effect (state : RefreshThread.State) (without : RefreshThread.Place)
    (input : Input) : Effect state (state.fetch without) input := by
  rw [RefreshThread.State.fetch]
  split
  · exact .quiet [] (Or.inl rfl) (List.append_nil _).symm rfl
  · exact .quiet [] (Or.inl rfl) (List.append_nil _).symm rfl

theorem threadStep_effect {config : Config} {state next : RefreshThread.State} {input : Input}
    (taken : threadStep config state input = some next) : Effect state next input := by
  rw [threadStep] at taken
  split at taken
  · rename_i caller point place
    cases taken
    have checked := RefreshThread.checkStep_checked config state caller input point
    refine .quiet [] (Or.inl rfl) ?_ ?_
    · rw [checked.transmitted, List.append_nil]
    · rw [checked.ddl]
  · cases taken
    exact .quiet [.idle] (Or.inr rfl) rfl rfl
  · cases taken
    exact fetch_effect state _ input
  · rename_i data place
    cases taken
    exact .sent data place rfl rfl
  · cases taken
    exact fetch_effect state _ input
  · split at taken
    · obtain ⟨⟨sent, ddl⟩, done, rfl⟩ := Option.map_eq_some_iff.mp taken
      exact .refreshed sent done rfl
    · cases taken
      exact .quiet [] (Or.inl rfl) (List.append_nil _).symm rfl

/-- What waits on the bus behind a step of the thread that sends no command. -/
theorem waits_of_commands {state next : RefreshThread.State} (served : state.Served)
    (served' : next.Served) (added : next.ddl.queue.added = state.ddl.queue.added)
    {sent : List QData} (commands : next.commands = state.commands ++ sent) :
    state.place.packet ++ state.ddl.queue.ring.contents qsize =
      sent ++ (next.place.packet ++ next.ddl.queue.ring.contents qsize) := by
  have before := served.all
  have behind := served'.all
  rw [added, ← before, commands, List.append_assoc, List.append_assoc, List.append_assoc] at behind
  exact (List.append_cancel_left behind).symm

theorem threadStep_added {config : Config} {state next : RefreshThread.State} {input : Input}
    (served : state.Served) (taken : threadStep config state input = some next) :
    next.ddl.queue.added = state.ddl.queue.added := by
  rcases RefreshThread.threadStep_queue taken with same | got
  · rw [same]
  · rw [got]
    exact (served.fifo.take QData.taken).2

/-! ## The invariant -/

/-- What the last command for the address says. -/
def State.target (address : Int) (state : State) : Option (Nat × Bool) :=
  (lastUpdate Type2Command.address state.calls address).map told

/-- The entry of the pool for an address has the last command for it, and what waits comes
to the same, or else the decoder has it. -/
structure Inv (config : Config) (address : Int) (state : State) : Prop where
  served : state.bus.Served
  refresh : state.bus.ddl.RefreshInv
  maerklin : state.bus.ddl.maerklinEnabled = true
  dcc : state.bus.ddl.nmradccEnabled = false
  fits : ∀ data ∈ state.adding, RefreshThread.QData.Fits data
  entries : ∀ update, lastUpdate MaerklinUpdate.adr
      state.bus.ddl.maerklinPacketPool.updates update.adr = some update →
    ∀ packet ∈ update.packets.all, packet.length = 18 ∧ tells address packet =
      if update.adr = address.toNat then state.target address else none
  last : ((state.waiting.filterMap (dataTells address)).getLast?).or
      (state.decoder config address) = state.target address

section Steps

variable {config : Config} {address : Int} {state next : State}

theorem target_command (address : Int) (state : State) (command : Type2Command)
    (bus : RefreshThread.State) (adding : List QData) :
    State.target address ⟨bus, adding, state.calls ++ [command]⟩ =
      (toldTo command address).or (state.target address) := by
  rw [State.target, lastUpdate_append_singleton, toldTo]
  split
  · rfl
  · rfl

/-- The packet of the pool without locomotives has the code of address 0. -/
theorem readPacket_idle : readPacket maerklinIdlePacket = some ⟨addressCode 0, false, 0, none⟩ := by
  decide

theorem tells_idle (range : 1 ≤ address ∧ address ≤ 255) :
    tells address maerklinIdlePacket = none := by
  rw [tells, readPacket_idle, Option.bind_some]
  refine if_neg fun code => ?_
  have same : (0 : Int) = address := addressCode_injective (by decide) (by omega) code
  omega

/-- The call as one of all composers. -/
def call (command : Type2Command) : MaerklinCall :=
  if command.extended then
    .m4 command.address command.direction command.speed command.func command.f
  else .m2 command.address command.direction command.speed command.func command.f

theorem compMaerklin_call (ddl : DdlData) (command : Type2Command) :
    compMaerklin ddl (call command) = command.process ddl := by
  rw [call, Type2Command.process]
  cases command.extended <;> rfl

theorem call_address (command : Type2Command) : (call command).address = command.address := by
  rw [call]
  cases command.extended <;> rfl

theorem last_append_singleton {α β : Type} (f : α → Option β) (entries : List α) (entry : α) :
    ((entries ++ [entry]).filterMap f).getLast? = (f entry).or (entries.filterMap f).getLast? := by
  rw [List.filterMap_append, List.getLast?_append]
  cases read : f entry with
  | none => rw [List.filterMap_cons_none read]; rfl
  | some value => rw [List.filterMap_cons_some read]; rfl

theorem Inv.command (inv : Inv config address state) (range : 1 ≤ address ∧ address ≤ 255)
    {command : Type2Command} (proper : Proper address state (.command command))
    (taken : step config state (.command command) = some next) : Inv config address next := by
  rcases proper with ⟨inRange, notIdle⟩
  rcases inRange.stores state.bus.ddl with ⟨entry, data, stores⟩
  have nonneg := inRange.address.1
  rw [step] at taken
  split at taken
  · rename_i empty
    cases taken
    have adding : (command.process state.bus.ddl).2.queue.added.drop
        state.bus.ddl.queue.added.length = [data] := by
      rw [stores.added, List.drop_left]
    have refresh : (compMaerklin state.bus.ddl (call command)).2.RefreshInv := by
      refine @refreshStep_inv 0 _ _ (.maerklin (call command)) inv.refresh ?_ rfl
      intro _ _ _
      rw [call_address]
      exact notIdle
    constructor
    · exact ⟨inv.served.inOrder, inv.served.fifo, inv.served.fits⟩
    · rcases compMaerklin_frame state.bus.ddl (call command) with ⟨pool, queue, frame⟩
      rw [compMaerklin_call] at frame refresh
      rw [frame] at refresh ⊢
      exact refreshInv_queue refresh state.bus.ddl.queue
    · exact inv.maerklin
    · exact inv.dcc
    · dsimp only
      rw [adding]
      intro other mem
      rw [List.mem_singleton.mp mem]
      exact stores.fits
    · intro update found packet mem
      dsimp only at found
      rw [stores.pool] at found
      simp only [updateMaerklinPacketPool] at found
      rw [lastUpdate_append_singleton] at found
      rw [target_command]
      have places : command.address.toNat = address.toNat ↔ command.address = address := by omega
      split at found
      · rename_i same
        cases found
        refine ⟨stores.length packet mem, ?_⟩
        rw [stores.entry address (by omega) packet mem, toldTo]
        by_cases mine : command.address = address
        · rw [if_pos mine, if_pos (places.mpr mine)]
          rfl
        · rw [if_neg mine, if_neg fun same => mine (places.mp same)]
      · rename_i other
        rcases inv.entries update found packet mem with ⟨length, tells⟩
        refine ⟨length, ?_⟩
        rw [tells]
        by_cases mine : update.adr = address.toNat
        · have elsewhere : command.address ≠ address := by
            intro same
            exact other (by rw [mine, same])
          rw [if_pos mine, if_pos mine, toldTo, if_neg elsewhere, Option.none_or]
        · rw [if_neg mine, if_neg mine]
    · have waiting : State.waiting ⟨{ state.bus with
          ddl := { state.bus.ddl with
            maerklinPacketPool := (command.process state.bus.ddl).2.maerklinPacketPool } },
          [data], state.calls ++ [command]⟩ = state.waiting ++ [data] := by
        rw [State.waiting, State.waiting, empty, List.append_nil]
      have before := inv.last
      dsimp only
      rw [adding, waiting, target_command, last_append_singleton, stores.data address (by omega),
        Option.or_assoc, ← before]
      rfl
  · cases taken

/-- A packet is added to the queue of a bus that is served. -/
theorem served_add {bus : RefreshThread.State} (served : bus.Served) {data : QData}
    (fits : RefreshThread.QData.Fits data)
    (room : bus.ddl.queue.ring.length qsize + 1 < qsize) :
    RefreshThread.State.Served
      { bus with ddl := { bus.ddl with queue := bus.ddl.queue.put qsize data } } :=
  @RefreshThread.step_served RefreshThread.plainConfig bus (.add data) _ served ⟨fits, room⟩ rfl

theorem contents_add {bus : RefreshThread.State} (served : bus.Served) (data : QData)
    (room : bus.ddl.queue.ring.length qsize + 1 < qsize) :
    (bus.ddl.queue.put qsize data).ring.contents qsize =
      bus.ddl.queue.ring.contents qsize ++ [data] :=
  served.fifo.valid.contents_put room data

theorem Inv.queueAdd (inv : Inv config address state)
    (proper : Proper address state .queueAdd)
    (taken : step config state .queueAdd = some next) : Inv config address next := by
  rw [step] at taken
  split at taken
  · cases taken
  · rename_i data rest adding
    cases taken
    have fits := inv.fits data (adding ▸ List.mem_cons_self)
    refine ⟨served_add inv.served fits proper, refreshInv_queue inv.refresh _, inv.maerklin,
      inv.dcc, ?_, inv.entries, ?_⟩
    · intro other mem
      exact inv.fits other (adding ▸ List.mem_cons_of_mem _ mem)
    · have before := inv.last
      rw [State.waiting, adding] at before
      rw [State.waiting]
      dsimp only
      rw [contents_add inv.served data proper, ← List.append_assoc, List.append_assoc _ [data]]
      exact before

/-- A packet that is not for the decoder does not count. -/
theorem Inv.add (inv : Inv config address state) {data : QData}
    (proper : Proper address state (.bus (.add data)))
    (taken : step config state (.bus (.add data)) = some next) : Inv config address next := by
  rcases proper with ⟨fits, room, silent⟩
  cases taken
  refine ⟨served_add inv.served fits room, refreshInv_queue inv.refresh _, inv.maerklin,
    inv.dcc, inv.fits, inv.entries, ?_⟩
  have before := inv.last
  rw [State.waiting, List.filterMap_append, List.filterMap_append] at before
  rw [State.waiting]
  dsimp only
  rw [contents_add inv.served data room, List.filterMap_append, List.filterMap_append,
    List.filterMap_append, List.filterMap_cons_none silent, List.filterMap_nil, List.append_nil]
  exact before

/-- The packets between commands are not for the decoder. -/
structure Silent (config : Config) (address : Int) : Prop where
  idleData : tells address config.idleData = none
  nmraIdleData : tells address config.nmraIdleData = none

theorem heard_idle (silent : Silent config address) :
    heard address (Transmission.writes config false .idle) = none := by
  refine heard_eq (Or.inl rfl) ?_
  intro bytes mem
  rw [List.mem_singleton.mp mem]
  exact Or.inl silent.idleData

/-- A command that is sent is heard, if it is for the decoder. -/
theorem heard_command (silent : Silent config address) {data : QData}
    (fits : RefreshThread.QData.Fits data) :
    heard address (Transmission.writes config false (.command data true)) =
      dataTells address data := by
  rcases fits.sendPacket config false with ⟨copies, others⟩
  have writes : Transmission.writes config false (.command data true) =
      RefreshThread.sendPacket config data.packet.val data.packetSize data.packetType false
        true := List.append_nil _
  rw [writes]
  refine heard_eq (Or.inr ⟨_, List.count_pos_iff.mp (by omega), rfl⟩) ?_
  intro bytes mem
  rcases others bytes mem with rfl | rfl
  · exact Or.inl rfl
  · exact Or.inr silent.nmraIdleData

/-- The packets of a known address tell the last command, or are not for the decoder. -/
theorem entry_tells (inv : Inv config address state) (range : 1 ≤ address ∧ address ≤ 255)
    {adr : Nat} (known : adr ∈ state.bus.ddl.maerklinPacketPool.list) {packet : Packetstream}
    (stored : packet ∈ (state.bus.ddl.maerklinPacketPool.packets adr).all) :
    packet.length = 18 ∧
      (tells address packet = state.target address ∨ tells address packet = none) := by
  have pool := inv.refresh.maerklinPool inv.maerklin
  rw [pool.mem_list_iff] at known
  by_cases fresh : state.bus.ddl.maerklinPacketPool.updates = []
  · rw [if_pos fresh] at known
    rw [known, pool.idlePacket fresh] at stored
    have same : packet = maerklinIdlePacket := by
      rcases List.mem_cons.mp stored with same | mem
      · exact same
      · rcases List.mem_map.mp mem with ⟨_, -, same⟩
        exact same.symm
    rw [same]
    exact ⟨rfl, Or.inr (tells_idle range)⟩
  · rw [if_neg fresh] at known
    rcases List.mem_map.mp known with ⟨update, mem, rfl⟩
    rcases exists_lastUpdate MaerklinUpdate.adr mem with ⟨last, found⟩
    have place : last.adr = update.adr := by
      have here := List.find?_some found
      exact beq_iff_eq.mp here
    rw [pool.stored _ _ found] at stored
    rcases inv.entries last (place ▸ found) packet stored with ⟨length, tells⟩
    refine ⟨length, ?_⟩
    rw [tells]
    split
    · exact Or.inl rfl
    · exact Or.inr rfl

/-- What a refresh tells is the last command, or not for the decoder. -/
theorem heard_refresh (inv : Inv config address state) (range : 1 ≤ address ∧ address ≤ 255)
    {sent : Refresh} {ddl : DdlData} (done : refreshLoco state.bus.ddl = some (sent, ddl)) :
    ddl.RefreshInv ∧
      (heard address (Transmission.writes config false (.refresh sent true)) = none ∨
        heard address (Transmission.writes config false (.refresh sent true)) =
          state.target address) := by
  rcases inv.refresh.refreshed (Or.inl inv.maerklin) with ⟨sent', ddl', done', refreshed⟩
  rw [done] at done'
  cases done'
  refine ⟨refreshed.inv, ?_⟩
  have turn : state.bus.ddl.maerklinRefresh = true := by
    cases turn : state.bus.ddl.maerklinRefresh with
    | true => rfl
    | false =>
        rcases inv.refresh.nmraTurn turn with dcc | disabled
        · rw [inv.dcc] at dcc
          cases dcc
        · rw [inv.maerklin] at disabled
          cases disabled
  have item := (refreshed.maerklin turn).1
  have inside := inv.refresh.maerklinInside inv.maerklin
  have known := Known.mem_list_of_lt inside.unit
  rw [MaerklinPacketPool.item, MaerklinPacketPool.refresh] at item
  have laps (count : Nat) {packet : Packetstream}
      (stored : packet ∈ (state.bus.ddl.maerklinPacketPool.packets
        (state.bus.ddl.maerklinPacketPool.knownAddresses
          (maerklinPlace state.bus.ddl).unit)).all) :
      heard address (List.replicate (count + 1) (packet.take 18)) = none ∨
        heard address (List.replicate (count + 1) (packet.take 18)) = state.target address := by
    rcases entry_tells inv range known stored with ⟨length, tells⟩
    rw [List.take_of_length_le (Nat.le_of_eq length)]
    have same : heard address (List.replicate (count + 1) packet) =
        TrackRuns.tells address packet := by
      refine heard_eq (Or.inr ⟨packet, List.mem_replicate.mpr ⟨Nat.succ_ne_zero _, rfl⟩, rfl⟩) ?_
      intro bytes mem
      rw [List.eq_of_mem_replicate mem]
      exact Or.inl rfl
    rw [same]
    exact tells.symm
  split at item
  · rw [item]
    exact laps 3 List.mem_cons_self
  · rw [item]
    exact laps 3 (List.mem_cons_of_mem _ (List.mem_map_of_mem (List.mem_finRange _)))

theorem decoder_append (address : Int) (state : State) (bus : RefreshThread.State)
    {more : List Transmission} (transmitted : bus.transmitted = state.bus.transmitted ++ more) :
    State.decoder config address { state with bus := bus } =
      (heard address (more.flatMap (Transmission.writes config false))).or
        (state.decoder config address) := by
  rw [State.decoder, State.decoder]
  dsimp only
  rw [transmitted, List.flatMap_append, heard_append]

theorem commands_append {bus next : RefreshThread.State} {more : List Transmission}
    (transmitted : next.transmitted = bus.transmitted ++ more) :
    next.commands = bus.commands ++ more.filterMap Transmission.command? := by
  rw [RefreshThread.State.commands, RefreshThread.State.commands, transmitted,
    List.filterMap_append]

/-- The invariant behind a step of the bus that keeps the pool. -/
theorem Inv.of_bus (inv : Inv config address state) {bus : RefreshThread.State}
    (served : bus.Served) (refresh : bus.ddl.RefreshInv)
    (maerklin : bus.ddl.maerklinEnabled = state.bus.ddl.maerklinEnabled)
    (dcc : bus.ddl.nmradccEnabled = state.bus.ddl.nmradccEnabled)
    (pool : bus.ddl.maerklinPacketPool = state.bus.ddl.maerklinPacketPool)
    (last : ((State.waiting { state with bus := bus }).filterMap (dataTells address)).getLast?.or
      (State.decoder config address { state with bus := bus }) = state.target address) :
    Inv config address { state with bus := bus } where
  served := served
  refresh := refresh
  maerklin := maerklin.trans inv.maerklin
  dcc := dcc.trans inv.dcc
  fits := inv.fits
  entries := by
    dsimp only
    rw [pool]
    exact inv.entries
  last := last

theorem Inv.thread (inv : Inv config address state) (range : 1 ≤ address ∧ address ≤ 255)
    (silent : Silent config address) {input : Input}
    (proper : Proper address state (.bus (.thread input)))
    (taken : step config state (.bus (.thread input)) = some next) : Inv config address next := by
  obtain ⟨bus, stepped, rfl⟩ := Option.map_eq_some_iff.mp taken
  have served : bus.Served :=
    @RefreshThread.step_served config state.bus (.thread input) bus inv.served trivial stepped
  have modeSet : input.modeSet = true := proper
  have added := threadStep_added inv.served stepped
  have before := inv.last
  -- What waits is what is sent, and what still waits.
  have waits {more : List Transmission}
      (transmitted : bus.transmitted = state.bus.transmitted ++ more) :
      state.waiting = more.filterMap Transmission.command? ++
        State.waiting { state with bus := bus } := by
    rw [State.waiting, State.waiting,
      waits_of_commands inv.served served added (commands_append transmitted), List.append_assoc]
  have unsent {more : List Transmission}
      (transmitted : bus.transmitted = state.bus.transmitted ++ more)
      (none : more.filterMap Transmission.command? = []) :
      State.waiting { state with bus := bus } = state.waiting := by
    rw [waits transmitted, none, List.nil_append]
  rcases threadStep_effect stepped with
    ⟨more, idle, transmitted, ddl⟩ | ⟨data, place, transmitted, ddl⟩ | ⟨sent, done, transmitted⟩
  · have quiet : heard address (more.flatMap (Transmission.writes config false)) = none ∧
        more.filterMap Transmission.command? = [] := by
      rcases idle with rfl | rfl
      · exact ⟨rfl, rfl⟩
      · rw [List.flatMap_singleton]
        exact ⟨heard_idle silent, rfl⟩
    refine inv.of_bus served ?_ ?_ ?_ ?_ ?_
    · rw [ddl]
      exact refreshInv_queue inv.refresh _
    · rw [ddl]
    · rw [ddl]
    · rw [ddl]
    · rw [unsent transmitted quiet.2, decoder_append address state bus transmitted, quiet.1,
        Option.none_or]
      exact before
  · rw [modeSet] at transmitted
    have fits : RefreshThread.QData.Fits data := by
      refine inv.served.fits data ?_
      rw [← inv.served.all, place]
      exact List.mem_append_left _ (List.mem_append_right _ List.mem_cons_self)
    refine inv.of_bus served ?_ ?_ ?_ ?_ ?_
    · rw [ddl]
      exact inv.refresh
    · rw [ddl]
    · rw [ddl]
    · rw [ddl]
    · rw [decoder_append address state bus transmitted, List.flatMap_singleton,
        heard_command silent fits, ← before, waits transmitted]
      have first : [Transmission.command data true].filterMap Transmission.command? = [data] := rfl
      have alone := last_append_singleton (dataTells address) [] data
      rw [List.nil_append, List.filterMap_nil, List.getLast?_nil, Option.or_none] at alone
      rw [first, List.filterMap_append, List.getLast?_append, alone, Option.or_assoc]
  · rw [modeSet] at transmitted
    have same := refreshLoco_sameBus done
    rcases heard_refresh inv range done with ⟨refresh, told⟩
    refine inv.of_bus served refresh same.maerklinEnabled same.nmradccEnabled
      same.maerklinPacketPool ?_
    rw [decoder_append address state bus transmitted, List.flatMap_singleton,
      unsent transmitted rfl]
    rcases told with silence | target
    · rw [silence, Option.none_or]
      exact before
    · rw [target]
      -- The last packet that waits tells the target too.
      cases waits : (state.waiting.filterMap (dataTells address)).getLast? with
      | none =>
          rw [waits, Option.none_or] at before
          rw [Option.none_or, before, Option.or_self]
      | some value =>
          rw [waits, Option.some_or] at before
          rw [Option.some_or]
          exact before

/-- The power of the bus has no part in what is served. -/
theorem served_power {bus : RefreshThread.State} (served : bus.Served) (on changed : Bool)
    (msg : String) (setting : Nat) :
    RefreshThread.State.Served
      { bus with powerState := on, powerChanged := changed, powerMsg := msg,
                 settingPower := setting } :=
  ⟨served.inOrder, served.fifo, served.fits⟩

theorem step_inv (silent : Silent config address) (range : 1 ≤ address ∧ address ≤ 255)
    (state : State) (action : Action) (next : State) (inv : Inv config address state)
    (proper : Proper address state action) (taken : step config state action = some next) :
    Inv config address next := by
  cases action with
  | command command => exact inv.command range proper taken
  | queueAdd => exact inv.queueAdd proper taken
  | bus action =>
      cases action with
      | setPowerState on msg =>
          cases taken
          exact inv.of_bus (served_power inv.served _ _ _ _) inv.refresh rfl rfl rfl inv.last
      | setPowerChanged =>
          obtain ⟨bus, stepped, rfl⟩ := Option.map_eq_some_iff.mp taken
          rw [RefreshThread.step] at stepped
          split at stepped
          · cases stepped
            exact inv.of_bus (served_power inv.served _ _ _ _) inv.refresh rfl rfl rfl inv.last
          · cases stepped
      | add data => exact inv.add proper taken
      | updatePools nmra maerklin => exact absurd proper not_false
      | thread input => exact inv.thread range silent proper taken

end Steps

/-! ## Runs -/

/-- A bus with the Maerklin protocol only, behind its initialisation. -/
structure Fresh (ddl : DdlData) : Prop where
  refresh : ddl.RefreshInv
  maerklin : ddl.maerklinEnabled = true
  dcc : ddl.nmradccEnabled = false
  pool : ddl.maerklinPacketPool.updates = []

/-- A bus before its first command. -/
def State.start (ddl : DdlData) (autoPowerOn : Bool) (time : Timeval) : State :=
  ⟨.start ddl autoPowerOn time, [], []⟩

theorem Fresh.inv {ddl : DdlData} (fresh : Fresh ddl) (config : Config) (address : Int)
    (autoPowerOn : Bool) (time : Timeval) :
    Inv config address (.start ddl autoPowerOn time) where
  served := RefreshThread.State.start_served ddl autoPowerOn time
  refresh := refreshInv_queue fresh.refresh _
  maerklin := fresh.maerklin
  dcc := fresh.dcc
  fits := fun _ mem => absurd mem List.not_mem_nil
  entries := by
    intro update found
    have none : lastUpdate MaerklinUpdate.adr ddl.maerklinPacketPool.updates update.adr =
        some update := found
    rw [fresh.pool] at none
    cases none
  last := rfl

theorem fresh_maerklinBus : Fresh maerklinBus where
  refresh :=
    ⟨fun _ => initMaerklinPacketPool_inv _, fun _ => ⟨Nat.one_pos, Nat.succ_pos 4⟩,
      fun _ => Int.le_refl (-1), fun dcc => absurd dcc Bool.false_ne_true,
      fun dcc => absurd dcc Bool.false_ne_true, fun dcc => absurd dcc Bool.false_ne_true,
      fun _ => rfl, fun turn => absurd turn.symm Bool.false_ne_true⟩
  maerklin := rfl
  dcc := rfl
  pool := rfl

theorem silent_plainConfig (address : Int) : Silent RefreshThread.plainConfig address :=
  ⟨rfl, rfl⟩

end Srcpd.Ddl.TrackRuns
