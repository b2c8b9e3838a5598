import Srcpd.Command.Handlers

/-!
# Indices of the accessory table

Which entries of `ga[bus].gastate[]` and `tv[]` the commands for accessories touch:
the functions of `srcp-ga.c` with the places where they do, and the handlers that
call them.  Some functions test the address and the port, others rely on a caller
that does not test them either.  `inTable_iff` says for which commands all indices
are those of the table.
-/

namespace Srcpd.GaTable

open Srcpd.Command Srcpd.Handlers Srcpd.Info Srcpd.Queue

/-- One access to an array by its index: to the records of the bus, or to the times of
the ports of a record. -/
inductive Access
  | gastate (index : Int)
  | tv (index : Int)
  deriving DecidableEq, Repr

/-- The table has the entries from 1 on, and is there if it has any; an entry has a
time for each port. -/
def Access.InTable (ga : GaBus) : Access → Prop
  | .gastate index => 1 ≤ index ∧ index ≤ ga.numberOfGa
  | .tv index => 0 ≤ index ∧ index < maxgaport

/-! ## The functions of the table -/

section Functions

variable (ga : GaBus) (addr port : Int)

/-- The test for a port is made when there is one. -/
def enqueueGA (queue : Log GaState) : List Access :=
  if 0 < addr ∧ addr ≤ ga.numberOfGa then
    if gaQueue.isFull queue.ring then [] else [.gastate addr, .tv port]
  else []

/-- `isInitializedGA`. -/
def initializedGA : List Access :=
  [.gastate addr]

/-- Both tests of `infoGA` are made before the port is looked up. -/
def infoGA : List Access :=
  if 0 < addr ∧ addr ≤ ga.numberOfGa ∧ 0 ≤ port ∧ port < maxgaport then
    initializedGA addr ++
      if (ga.gastate addr).isInitialized then [.gastate addr, .tv port] else []
  else []

/-- `setGA`, with which a driver stores what it has dequeued. -/
def setGA : List Access :=
  if 0 < addr ∧ addr ≤ ga.numberOfGa then
    initializedGA addr ++
      if (ga.gastate addr).isInitialized then
        [.gastate addr, .tv port] ++ infoGA ga addr port
      else []
  else []

/-- `termGA` clears the record only of an accessory that is initialised. -/
def termGA : List Access :=
  initializedGA addr ++ if (ga.gastate addr).isInitialized then [.gastate addr] else []

/-- `describeGA` looks at the record without a test for its initialisation. -/
def describeGA : List Access :=
  if ga.numberOfGa ≤ 0 then []
  else if 0 < addr ∧ addr ≤ ga.numberOfGa then [.gastate addr]
  else []

/-- `initGA`, with the loop over the times of all ports and the description behind it. -/
def initGA (driver : GaDriver) (protocol : Char) : List Access :=
  if 0 < addr ∧ addr ≤ ga.numberOfGa then
    if protocol ∈ driver.protocols then
      [.gastate addr] ++ ((List.range maxgaport).map fun i => .tv i) ++ describeGA ga addr
    else []
  else []

/-- `getlockGA` reads the record at any address. -/
def getlockGA : List Access :=
  [.gastate addr]

/-- `describeLOCKGA` reads the record at any address. -/
def describeLOCKGA : List Access :=
  [.gastate addr]

/-- `lockGA` reads the lock at any address and stores it if it is open. -/
def lockGA (sessionid : Nat) : List Access :=
  [.gastate addr] ++
    if (ga.gastate addr).lock.open sessionid then [.gastate addr] ++ describeLOCKGA addr else []

/-- `unlockGA` reads the lock at any address. -/
def unlockGA : List Access :=
  [.gastate addr]

end Functions

/-! ## The commands -/

/-- What the commands depend on; `later` is the table when the driver gets to a command,
of the same size. -/
structure Setting where
  ga : GaBus
  queue : Log GaState
  driver : GaDriver
  sessionid : Nat
  /-- In a variable in which nothing is stored. -/
  garbage : Int
  later : GaBus
  size : later.numberOfGa = ga.numberOfGa

/-- The commands about accessories with the numbers that `sscanf` takes from them. -/
inductive Command
  | set (gaddr port : Int)
  | get (addr port : Int)
  | init (addr : Int) (prot : Char)
  | term (addr : Int)
  | setLock (addr : Int)
  | getLock (addr : Int)
  | termLock (addr : Int)
  | getDescription (addr : Int)
  deriving DecidableEq, Repr

/-- What is left of the lock that `getlockGA` reads. -/
def Setting.lockid (setting : Setting) (addr : Int) : Nat :=
  (setting.ga.gastate addr).lock.lockedBy

/-- The test of the lock in `handleSET`, before anything is queued. -/
def Setting.setOpen (setting : Setting) (addr : Int) : Prop :=
  setting.lockid addr = 0 ∨ setting.lockid addr = setting.sessionid

instance (setting : Setting) (addr : Int) : Decidable (setting.setOpen addr) :=
  inferInstanceAs (Decidable (_ ∨ _))

/-- The driver gets to a command that was queued. -/
def Setting.driven (setting : Setting) (gaddr port : Int) : List Access :=
  if 0 < gaddr ∧ gaddr ≤ setting.ga.numberOfGa ∧ gaQueue.isFull setting.queue.ring = false then
    setGA setting.later gaddr port
  else []

/-- All accesses of a command, in their order. -/
def Setting.accesses (setting : Setting) : Command → List Access
  | .set gaddr port =>
      getlockGA gaddr ++
        if setting.setOpen gaddr then
          enqueueGA setting.ga gaddr port setting.queue ++ setting.driven gaddr port
        else []
  | .get addr port => infoGA setting.ga addr port
  | .init addr prot => initGA setting.ga addr setting.driver prot
  | .term addr =>
      getlockGA addr ++
        if setting.lockid addr = 0 then termGA setting.ga addr
        else if setting.lockid addr = setting.sessionid then
          unlockGA addr ++ termGA setting.ga addr
        else []
  | .setLock addr => lockGA setting.ga addr setting.sessionid
  | .getLock addr => describeLOCKGA addr
  | .termLock addr => unlockGA addr
  | .getDescription addr => describeGA setting.ga addr

/-! ## Lines -/

/-- The commands without their parameters. -/
inductive Verb
  | set
  | get
  | init
  | term
  | setLock
  | getLock
  | termLock
  | getDescription

/-- The word behind `LOCK` starts with `GA`, which is all that is compared. -/
def isGA (devgrp : List Char) : Bool :=
  startsWith groupGA devgrp

/-- The command of a line for accessories, if its parameters are complete. -/
def commandOf (garbage : Int) (parameter : List Char) : Verb → Option Command
  | .set =>
      match scanLongs 4 parameter with
      | [gaddr, port, _, _] => some (.set (int32 gaddr) (int32 port))
      | _ => none
  | .get =>
      match scanLongs 2 parameter with
      | [addr, port] => some (.get (int32 addr) (int32 port))
      | _ => none
  | .init =>
      (scanLong parameter).bind fun scanned =>
        (scanChar scanned.2).map fun prot => .init (int32 scanned.1) prot.1
  | .term => (scanLong parameter).map fun scanned => .term (int32 scanned.1)
  | .setLock =>
      (scanWord parameter).bind fun scanned =>
        match scanLongs 2 scanned.2 with
        | [addr, _] => if isGA scanned.1 then some (.setLock (int32 addr)) else none
        | _ => none
  | .getLock =>
      (scanWord parameter).bind fun scanned =>
        (scanLong scanned.2).bind fun number =>
          if isGA scanned.1 then some (.getLock (int32 number.1)) else none
  | .termLock =>
      (scanWord parameter).bind fun scanned =>
        (scanLong scanned.2).bind fun number =>
          if isGA scanned.1 then some (.termLock (int32 number.1)) else none
  | .getDescription =>
      (scanWord parameter).bind fun scanned =>
        -- the conversion ends behind ten characters
        let devgrp := scanned.1.take 10
        let rest := (skipSpace parameter).drop devgrp.length
        if isGA devgrp then
          some (.getDescription (int32 ((scanLong rest).elim garbage Prod.fst)))
        else none

/-- All accesses of a line. -/
def Setting.lineAccesses (setting : Setting) (verb : Verb) (parameter : List Char) :
    List Access :=
  (commandOf setting.garbage parameter verb).elim [] setting.accesses

/-- The address is one of the table where nobody tests it, and the port of a `SET` that
is queued is one of an accessory. -/
def Setting.Addresses (setting : Setting) : Command → Prop
  | .set gaddr port =>
      1 ≤ gaddr ∧ gaddr ≤ setting.ga.numberOfGa ∧
        (setting.setOpen gaddr → gaQueue.isFull setting.queue.ring = false →
          0 ≤ port ∧ port < maxgaport)
  | .term addr | .setLock addr | .getLock addr | .termLock addr =>
      1 ≤ addr ∧ addr ≤ setting.ga.numberOfGa
  | .get .. | .init .. | .getDescription .. => True

/-! ## What the functions touch -/

section Accesses

variable {ga later : GaBus} {addr port : Int} {access : Access} {setting : Setting}

theorem inTable_of_mem_infoGA (mem : access ∈ infoGA ga addr port) : access.InTable ga := by
  unfold infoGA at mem
  split at mem
  · rename_i range
    have entry : (Access.gastate addr).InTable ga := ⟨range.1, range.2.1⟩
    rcases List.mem_append.mp mem with first | rest
    · rw [List.mem_singleton.mp first]
      exact entry
    · split at rest
      · rcases List.mem_cons.mp rest with rfl | time
        · exact entry
        · rw [List.mem_singleton.mp time]
          exact range.2.2
      · cases rest
  · cases mem

/-- A driver that stores a port of an accessory stays in the table. -/
theorem inTable_of_mem_setGA (inRange : 0 ≤ port ∧ port < maxgaport)
    (mem : access ∈ setGA ga addr port) : access.InTable ga := by
  unfold setGA at mem
  split at mem
  · rename_i range
    have entry : (Access.gastate addr).InTable ga := range
    rcases List.mem_append.mp mem with first | rest
    · rw [List.mem_singleton.mp first]
      exact entry
    · split at rest
      · rcases List.mem_append.mp rest with own | info
        · rcases List.mem_cons.mp own with rfl | time
          · exact entry
          · rw [List.mem_singleton.mp time]
            exact inRange
        · exact inTable_of_mem_infoGA info
      · cases rest
  · cases mem

theorem inTable_of_mem_describeGA (mem : access ∈ describeGA ga addr) : access.InTable ga := by
  unfold describeGA at mem
  split at mem
  · cases mem
  · split at mem
    · rename_i range
      rw [List.mem_singleton.mp mem]
      exact range
    · cases mem

theorem inTable_of_mem_initGA {driver : GaDriver} {protocol : Char}
    (mem : access ∈ initGA ga addr driver protocol) : access.InTable ga := by
  unfold initGA at mem
  split at mem
  · rename_i range
    split at mem
    · rcases List.mem_append.mp mem with first | described
      · rcases List.mem_append.mp first with entry | time
        · rw [List.mem_singleton.mp entry]
          exact range
        · obtain ⟨i, small, rfl⟩ := List.mem_map.mp time
          rw [List.mem_range] at small
          constructor
          · exact Int.natCast_nonneg i
          · exact Int.ofNat_lt.mpr small
      · exact inTable_of_mem_describeGA described
    · cases mem
  · cases mem

theorem eq_of_mem_termGA (mem : access ∈ termGA ga addr) : access = .gastate addr := by
  unfold termGA at mem
  rcases List.mem_append.mp mem with first | rest
  · exact List.mem_singleton.mp first
  · split at rest
    · exact List.mem_singleton.mp rest
    · cases rest

theorem eq_of_mem_lockGA {sessionid : Nat} (mem : access ∈ lockGA ga addr sessionid) :
    access = .gastate addr := by
  unfold lockGA at mem
  rcases List.mem_append.mp mem with first | rest
  · exact List.mem_singleton.mp first
  · split at rest
    · rcases List.mem_append.mp rest with second | described
      · exact List.mem_singleton.mp second
      · exact List.mem_singleton.mp described
    · cases rest

theorem Access.InTable.congr (size : later.numberOfGa = ga.numberOfGa)
    (inTable : access.InTable later) : access.InTable ga := by
  cases access with
  | gastate index => exact ⟨inTable.1, size ▸ inTable.2⟩
  | tv index => exact inTable

theorem inTable_set_iff {gaddr : Int} :
    (∀ access ∈ setting.accesses (.set gaddr port), access.InTable setting.ga) ↔
      setting.Addresses (.set gaddr port) := by
  simp only [Setting.accesses, Setting.Addresses]
  constructor
  · intro all
    have entry : (Access.gastate gaddr).InTable setting.ga :=
      all _ (List.mem_append_left _ List.mem_cons_self)
    refine ⟨entry.1, entry.2, fun unlocked room => ?_⟩
    have time : Access.tv port ∈ enqueueGA setting.ga gaddr port setting.queue := by
      rw [enqueueGA, if_pos ⟨Int.lt_of_lt_of_le Int.zero_lt_one entry.1, entry.2⟩,
        if_neg (by rw [room]; decide)]
      exact List.mem_cons_of_mem _ List.mem_cons_self
    apply all (.tv port)
    apply List.mem_append_right
    rw [if_pos unlocked]
    exact List.mem_append_left _ time
  · rintro ⟨lower, upper, inRange⟩ access mem
    have entry : (Access.gastate gaddr).InTable setting.ga := ⟨lower, upper⟩
    rcases List.mem_append.mp mem with first | rest
    · rw [List.mem_singleton.mp first]
      exact entry
    · by_cases unlocked : setting.setOpen gaddr
      · rw [if_pos unlocked] at rest
        by_cases full : gaQueue.isFull setting.queue.ring = true
        · have silent : setting.driven gaddr port = [] :=
            if_neg fun both => by rw [full] at both; cases both.2.2
          have refused : enqueueGA setting.ga gaddr port setting.queue = [] := by
            rw [enqueueGA, if_pos ⟨Int.lt_of_lt_of_le Int.zero_lt_one lower, upper⟩, if_pos full]
          rw [silent, refused] at rest
          cases rest
        · have ports := inRange unlocked (Bool.eq_false_iff.mpr full)
          rcases List.mem_append.mp rest with queued | driven
          · unfold enqueueGA at queued
            split at queued
            · rcases List.mem_cons.mp queued with rfl | time
              · exact entry
              · rw [List.mem_singleton.mp time]
                exact ports
            · cases queued
          · unfold Setting.driven at driven
            split at driven
            · exact (inTable_of_mem_setGA ports driven).congr setting.size
            · cases driven
      · rw [if_neg unlocked] at rest
        cases rest

/-- A command that touches only the entry of its address, and that at once. -/
theorem inTable_entry_iff {accesses : List Access} (first : .gastate addr ∈ accesses)
    (only : ∀ access ∈ accesses, access = .gastate addr) :
    (∀ access ∈ accesses, access.InTable ga) ↔ 1 ≤ addr ∧ addr ≤ ga.numberOfGa := by
  constructor
  · intro all
    exact all _ first
  · intro range access mem
    rw [only access mem]
    exact range

theorem accesses_inTable_iff (command : Command) :
    (∀ access ∈ setting.accesses command, access.InTable setting.ga) ↔
      setting.Addresses command := by
  cases command with
  | set gaddr port => exact inTable_set_iff
  | get addr port => exact iff_of_true (fun _ => inTable_of_mem_infoGA) trivial
  | init addr prot => exact iff_of_true (fun _ => inTable_of_mem_initGA) trivial
  | getDescription addr => exact iff_of_true (fun _ => inTable_of_mem_describeGA) trivial
  | term addr =>
      apply inTable_entry_iff
      · exact List.mem_append_left _ List.mem_cons_self
      · intro access mem
        rcases List.mem_append.mp mem with first | rest
        · exact List.mem_singleton.mp first
        · split at rest
          · exact eq_of_mem_termGA rest
          · split at rest
            · rcases List.mem_append.mp rest with unlocked | terminated
              · exact List.mem_singleton.mp unlocked
              · exact eq_of_mem_termGA terminated
            · cases rest
  | setLock addr =>
      apply inTable_entry_iff
      · exact List.mem_append_left _ List.mem_cons_self
      · exact fun _ => eq_of_mem_lockGA
  | getLock addr =>
      exact inTable_entry_iff List.mem_cons_self fun _ => List.mem_singleton.mp
  | termLock addr =>
      exact inTable_entry_iff List.mem_cons_self fun _ => List.mem_singleton.mp

end Accesses

/-- The lines whose accesses are all in the table. -/
theorem inTable_iff (setting : Setting) (verb : Verb) (parameter : List Char) :
    (∀ access ∈ setting.lineAccesses verb parameter, access.InTable setting.ga) ↔
      ∀ command ∈ commandOf setting.garbage parameter verb, setting.Addresses command := by
  rw [Setting.lineAccesses]
  cases commandOf setting.garbage parameter verb with
  | none =>
      refine iff_of_true ?_ ?_
      · rintro access ⟨⟩
      · rintro command ⟨⟩
  | some command =>
      rw [Option.elim_some, accesses_inTable_iff]
      constructor
      · rintro addresses other ⟨⟩
        exact addresses
      · intro all
        exact all command rfl

/-- Ten accessories, which nobody has locked. -/
def tenUnlocked : Setting where
  ga := ⟨10, fun _ => .zero⟩
  queue := ⟨⟨fun _ => GaDevice.zero.toGaState, 0, 0⟩, [], []⟩
  driver := ⟨['N'], none⟩
  sessionid := 1
  garbage := 0
  later := ⟨10, fun _ => .zero⟩
  size := rfl

/-- `SET 1 GA 1 8 1 -1` writes the time of a ninth port, and `TERM 1 GA 5000` reads
behind the table. -/
theorem not_inTable :
    ¬ (∀ access ∈ tenUnlocked.lineAccesses .set "1 8 1 -1".toList,
        access.InTable tenUnlocked.ga) ∧
      ¬ ∀ access ∈ tenUnlocked.lineAccesses .term "5000".toList,
        access.InTable tenUnlocked.ga := by
  constructor
  · intro all
    have ninth : Access.tv 8 ∈ tenUnlocked.lineAccesses .set "1 8 1 -1".toList := by
      decide
    exact absurd (all _ ninth).2 (by decide)
  · intro all
    have behind : Access.gastate 5000 ∈ tenUnlocked.lineAccesses .term "5000".toList := by
      decide
    exact absurd (all _ behind).2 (by decide)

end Srcpd.GaTable
