import Srcpd.Command.Handlers

/-!
# Commands for a device that another session has locked

Each handler has its own test for the lock, with the emergency stop as the only
exception.  `initGA` has none.  A command that is refused leaves the server as it was,
so a run is the same without it.

`isolates_iff` is the exact condition under which the foreign commands of a run leave
the locked devices alone.
-/

namespace Srcpd.Handlers

open Srcpd.Command Srcpd.Info Srcpd.Queue Srcpd.Time Srcpd.Transition

/-! ## Devices and their locks -/

/-- The device that a command line names. -/
inductive Target
  | gl (bus : Nat) (addr : Int)
  | ga (bus : Nat) (addr : Int)
  deriving DecidableEq

/-- The session that holds the lock, or 0. -/
def Server.holder (server : Server) : Target → Nat
  | .gl bus addr => (cacheGetLockGL server.tables bus addr).getD 0
  | .ga bus addr => ((server.tables.ga bus).gastate addr).lock.lockedBy

/-- The device that a command names first. -/
def CommandLine.target (line : CommandLine) : Option Target :=
  match line.group with
  | .gl => (scanLong line.parameter).map fun scanned => .gl line.bus (int32 scanned.1)
  | .ga => (scanLong line.parameter).map fun scanned => .ga line.bus (int32 scanned.1)
  | .lock =>
      match scanWord line.parameter with
      | some (devgrp, rest) =>
          match scanLong rest with
          | some (addr, _) =>
              if startsWith groupGL devgrp then some (.gl line.bus (int32 addr))
              else if startsWith groupGA devgrp then some (.ga line.bus (int32 addr))
              else none
          | none => none
      | none => none
  | _ => none

/-- A `SET GL` with direction 2. -/
def CommandLine.emergencyStop (line : CommandLine) : Bool :=
  match line.verb, line.group, scanLongs 33 line.parameter with
  | .set, .gl, _ :: direction :: _ => direction == 2
  | _, _, _ => false

/-- A command for a device that another session has locked. -/
def Server.foreign (server : Server) (line : CommandLine) : Bool :=
  match line.target with
  | some target =>
      server.holder target != 0 && server.holder target != line.session && !line.emergencyStop
  | none => false

/-- The record, the lock and the queue are as before. -/
def Untouched (server next : Server) : Target → Prop
  | .gl bus addr =>
      (next.tables.gl bus).glstate addr = (server.tables.gl bus).glstate addr ∧
        next.tables.glLock bus = server.tables.glLock bus ∧
        next.tables.queue bus = server.tables.queue bus
  | .ga bus addr =>
      (next.tables.ga bus).gastate addr = (server.tables.ga bus).gastate addr ∧
        next.gaQueue bus = server.gaQueue bus

/-- The record that an `INIT GA` leaves. -/
def initializedGA (drivers : Drivers) (tables : Tables) (now bus : Nat) (addr : Int)
    (protocol : Char) : GaDevice :=
  let init := GaDriver.initGA (drivers.ga bus)
    (freshGA ((tables.ga bus).gastate addr) now protocol)
  if init.1 = .ok then { init.2 with state := 1 } else init.2

/-- An `INIT GA` for a configured address and a protocol of the bus finds the record
that it leaves. -/
def KeepsRecord (env : Environment) (server : Server) (line : CommandLine) : Prop :=
  server.hasDevicegroup line.bus line.group = true → line.verb = .init → line.group = .ga →
    ∀ addr rest prot behind, scanLong line.parameter = some (addr, rest) →
      scanChar rest = some (prot, behind) →
        0 < int32 addr ∧ int32 addr ≤ (server.tables.ga line.bus).numberOfGa →
          prot ∈ (env.drivers.ga line.bus).protocols →
            initializedGA env.drivers server.tables env.now line.bus (int32 addr) prot =
              (server.tables.ga line.bus).gastate (int32 addr)

/-! ## Runs -/

/-- A command with its environment; nothing is taken while a handler waits. -/
def serve : Step Server (Environment × CommandLine) := fun server command =>
  (handle command.1 server command.2).map Answer.server

/-- A command for a device that another session has locked leaves the device alone. -/
def Isolates (server : Server) (command : Environment × CommandLine) : Prop :=
  server.foreign command.2 = true → ∀ target, command.2.target = some target →
    ∀ next, serve server command = some next → Untouched server next target

/-- The run without the commands for devices that other sessions have locked. -/
def withoutForeign (server : Server) :
    List (Environment × CommandLine) → List (Environment × CommandLine)
  | [] => []
  | command :: commands =>
      if server.foreign command.2 then withoutForeign server commands
      else
        match serve server command with
        | some next => command :: withoutForeign next commands
        | none => [command]

/-! ## The tests of the handlers -/

section Tests

variable {drivers : Drivers} {server : Server} {answer : Answer} {now bus session garbage : Nat}
  {parameter rest : List Char} {addr value : Int} {env : Environment} {line : CommandLine}
  {target : Target}

/-- The lock is held by another session. -/
structure LockedOut (server : Server) (session : Nat) (target : Target) : Prop where
  held : server.holder target ≠ 0
  other : server.holder target ≠ session

theorem LockedOut.glInitialized (locked : LockedOut server session (.gl bus addr)) :
    (server.tables.gl bus).isInitialized addr = true := by
  by_contra dead
  have free : server.holder (.gl bus addr) = 0 := by
    rw [Server.holder, cacheGetLockGL, if_neg dead, Option.getD_none]
  exact locked.held free

theorem LockedOut.glHolder (locked : LockedOut server session (.gl bus addr)) :
    cacheGetLockGL server.tables bus addr = some (server.tables.glLock bus).lockedBy := by
  rw [cacheGetLockGL, if_pos locked.glInitialized]

theorem LockedOut.gl_ne_zero (locked : LockedOut server session (.gl bus addr)) :
    (server.tables.glLock bus).lockedBy ≠ 0 := by
  have held := locked.held
  rwa [Server.holder, locked.glHolder, Option.getD_some] at held

theorem LockedOut.gl_ne_session (locked : LockedOut server session (.gl bus addr)) :
    (server.tables.glLock bus).lockedBy ≠ session := by
  have other := locked.other
  rwa [Server.holder, locked.glHolder, Option.getD_some] at other

theorem LockedOut.gl_not_open (locked : LockedOut server session (.gl bus addr)) :
    ¬ (server.tables.glLock bus).open session := by
  rintro (own | free)
  · exact locked.gl_ne_session own
  · exact locked.gl_ne_zero free

theorem LockedOut.ga_ne_zero (locked : LockedOut server session (.ga bus addr)) :
    ((server.tables.ga bus).gastate addr).lock.lockedBy ≠ 0 :=
  locked.held

theorem LockedOut.ga_ne_session (locked : LockedOut server session (.ga bus addr)) :
    ((server.tables.ga bus).gastate addr).lock.lockedBy ≠ session :=
  locked.other

theorem LockedOut.ga_not_open (locked : LockedOut server session (.ga bus addr)) :
    ¬ ((server.tables.ga bus).gastate addr).lock.open session := by
  rintro (own | free)
  · exact locked.ga_ne_session own
  · exact locked.ga_ne_zero free

/-- A handler that leaves the server as it was. -/
def Leaves (server : Server) (handled : Option Answer) : Prop :=
  handled.map Answer.server = some server

theorem leaves_refuse {code : Nat} : Leaves server (some (server.refuse code)) :=
  rfl

theorem leaves_after {code : Nat} {texts : List Announcement} :
    Leaves server (server.after code (some (server.tables, texts))) :=
  rfl

theorem scanLong_of_scanLongs {count : Nat} {values : List Int}
    (scanned : scanLongs count parameter = value :: values) :
    ∃ rest, scanLong parameter = some (value, rest) := by
  cases count with
  | zero => cases scanned
  | succ count =>
      rw [scanLongs] at scanned
      split at scanned
      · cases scanned
      · rename_i first rest found
        cases scanned
        exact ⟨rest, found⟩

theorem setGL_leaves (first : scanLong parameter = some (value, rest))
    (locked : LockedOut server session (.gl bus (int32 value)))
    (runs : ∀ laddr direction behind, scanLongs 33 parameter = laddr :: direction :: behind →
      direction ≠ 2) :
    Leaves server (setGL drivers server now bus session parameter) := by
  unfold setGL
  split
  · rename_i laddr direction speed maxspeed f scanned
    rcases scanLong_of_scanLongs scanned with ⟨rest', first'⟩
    rw [first] at first'
    cases first'
    dsimp only
    rw [locked.glHolder, Option.getD_some]
    rw [if_neg]
    · exact leaves_refuse
    · rintro (free | own | stop)
      · exact locked.gl_ne_zero free
      · exact locked.gl_ne_session own
      · exact runs _ _ _ scanned stop
  · exact leaves_refuse

theorem setGA_leaves (first : scanLong parameter = some (value, rest))
    (locked : LockedOut server session (.ga bus (int32 value))) :
    Leaves server (setGA server now bus session parameter) := by
  unfold setGA
  split
  · rename_i gaddr port aktion delay scanned
    rcases scanLong_of_scanLongs scanned with ⟨rest', first'⟩
    rw [first] at first'
    cases first'
    dsimp only
    rw [if_neg]
    · exact leaves_refuse
    · rintro (free | own)
      · exact locked.ga_ne_zero free
      · exact locked.ga_ne_session own
  · exact leaves_refuse

theorem initGL_leaves (first : scanLong parameter = some (value, rest))
    (locked : LockedOut server session (.gl bus (int32 value))) :
    Leaves server (initGL drivers server now bus session parameter) := by
  unfold initGL
  rw [first]
  dsimp only
  split
  · exact leaves_refuse
  · split
    · rw [locked.glHolder, Option.getD_some, if_neg]
      · exact leaves_refuse
      · rintro (free | own)
        · exact locked.gl_ne_zero free
        · exact locked.gl_ne_session own
    · exact leaves_refuse

theorem termGL_leaves (first : scanLong parameter = some (value, rest))
    (locked : LockedOut server session (.gl bus (int32 value))) :
    Leaves server (termGL drivers server now bus session garbage parameter) := by
  unfold termGL
  rw [first]
  dsimp only
  rw [locked.glHolder, Option.getD_some, if_neg locked.gl_ne_zero, if_neg locked.gl_ne_session]
  exact leaves_refuse

theorem termGA_leaves (first : scanLong parameter = some (value, rest))
    (locked : LockedOut server session (.ga bus (int32 value))) :
    Leaves server (termGA server now bus session parameter) := by
  unfold termGA
  rw [first]
  dsimp only
  rw [if_neg locked.ga_ne_zero, if_neg locked.ga_ne_session]
  exact leaves_refuse

theorem LockedOut.lockGL_leaves {code : Nat} {duration : Int}
    (locked : LockedOut server session (.gl bus addr)) :
    Leaves server (server.after code
      (server.tables.cacheLockGL now bus addr duration session)) := by
  rw [Tables.cacheLockGL, if_neg fun both => locked.gl_not_open both.2]
  exact leaves_after

theorem LockedOut.unlockGL_leaves {code : Nat} (locked : LockedOut server session (.gl bus addr)) :
    Leaves server (server.after code (server.tables.cacheUnlockGL now bus addr session)) := by
  rw [Tables.cacheUnlockGL, if_neg fun both => locked.gl_not_open both.2]
  exact leaves_after

theorem LockedOut.lockGA_leaves {code : Nat} {duration : Int}
    (locked : LockedOut server session (.ga bus addr)) :
    Leaves server (server.after code (server.tables.lockGA now bus addr duration session)) := by
  rw [Tables.lockGA, if_neg locked.ga_not_open]
  exact leaves_after

theorem LockedOut.unlockGA_leaves {code : Nat} (locked : LockedOut server session (.ga bus addr)) :
    Leaves server (server.after code (server.tables.unlockGA now bus addr session)) := by
  rw [Tables.unlockGA]
  dsimp only
  rw [if_neg locked.ga_not_open]
  exact leaves_after

/-- The device of a lock command. -/
theorem lockTarget_cases (group : line.group = .lock) (aims : line.target = some target) :
    ∃ devgrp rest addr behind, scanWord line.parameter = some (devgrp, rest) ∧
      scanLong rest = some (addr, behind) ∧
      ((startsWith groupGL devgrp = true ∧ target = .gl line.bus (int32 addr)) ∨
        (startsWith groupGL devgrp = false ∧ startsWith groupGA devgrp = true ∧
          target = .ga line.bus (int32 addr))) := by
  simp only [CommandLine.target, group] at aims
  split at aims
  · rename_i devgrp rest word
    split at aims
    · rename_i addr behind number
      refine ⟨devgrp, rest, addr, behind, word, number, ?_⟩
      split at aims
      · rename_i gl
        cases aims
        exact Or.inl ⟨gl, rfl⟩
      · rename_i notGl
        split at aims
        · rename_i ga
          cases aims
          exact Or.inr ⟨Bool.eq_false_iff.mpr notGl, ga, rfl⟩
        · cases aims
    · cases aims
  · cases aims

theorem setLOCK_leaves (group : line.group = .lock) (aims : line.target = some target)
    (locked : LockedOut server session target) :
    Leaves server (setLOCK server now line.bus session line.parameter) := by
  rcases lockTarget_cases group aims with ⟨devgrp, rest, addr, behind, word, number, device⟩
  unfold setLOCK
  rw [word]
  dsimp only
  split
  · rename_i addr' duration scanned
    rcases scanLong_of_scanLongs scanned with ⟨behind', number'⟩
    rw [number] at number'
    cases number'
    rcases device with ⟨gl, rfl⟩ | ⟨notGl, ga, rfl⟩
    · rw [if_pos gl]
      exact locked.lockGL_leaves
    · rw [if_neg (Bool.eq_false_iff.mp notGl), if_pos ga]
      exact locked.lockGA_leaves
  · exact leaves_refuse

theorem termLOCK_leaves (group : line.group = .lock) (aims : line.target = some target)
    (locked : LockedOut server session target) :
    Leaves server (termLOCK server now line.bus session line.parameter) := by
  rcases lockTarget_cases group aims with ⟨devgrp, rest, addr, behind, word, number, device⟩
  unfold termLOCK
  rw [word]
  dsimp only
  rw [number]
  dsimp only
  rcases device with ⟨gl, rfl⟩ | ⟨notGl, ga, rfl⟩
  · rw [if_pos gl]
    exact locked.unlockGL_leaves
  · rw [if_neg (Bool.eq_false_iff.mp notGl), if_pos ga]
    exact locked.unlockGA_leaves

/-! ## INIT GA -/

theorem initGA_accepted {tables : Tables} {protocol : Char}
    (accepted : 0 < addr ∧ addr ≤ (tables.ga bus).numberOfGa ∧
      protocol ∈ (drivers.ga bus).protocols) :
    (tables.initGA drivers now bus addr protocol).map Prod.fst =
      some (tables.setGa bus addr (initializedGA drivers tables now bus addr protocol)) := by
  rw [Tables.initGA, if_pos accepted]
  dsimp only
  by_cases ok : (GaDriver.initGA (drivers.ga bus)
      (freshGA ((tables.ga bus).gastate addr) now protocol)).1 = .ok
  · rw [initializedGA]
    dsimp only
    rw [if_pos ok]
    exact congrArg (Option.map Prod.fst) (if_pos ok)
  · rw [initializedGA]
    dsimp only
    rw [if_neg ok]
    exact congrArg (Option.map Prod.fst) (if_neg ok)

theorem initGA_refused {tables : Tables} {protocol : Char}
    (refused : ¬ (0 < addr ∧ addr ≤ (tables.ga bus).numberOfGa ∧
      protocol ∈ (drivers.ga bus).protocols)) :
    (tables.initGA drivers now bus addr protocol).map Prod.fst = some tables := by
  rw [Tables.initGA, if_neg refused, Option.map_some]

theorem after_server {code : Nat} {announcing : Announcing} {tables : Tables}
    (result : announcing.map Prod.fst = some tables) :
    (server.after code announcing).map Answer.server = some { server with tables := tables } := by
  rcases Option.map_eq_some_iff.mp result with ⟨⟨tables, texts⟩, rfl, rfl⟩
  rfl

/-! ## One command -/

theorem foreign_cases (foreign : server.foreign line = true) :
    ∃ target, line.target = some target ∧ LockedOut server line.session target ∧
      line.emergencyStop = false := by
  rw [Server.foreign] at foreign
  split at foreign
  · rename_i target aims
    simp only [Bool.and_eq_true, bne_iff_ne, Bool.not_eq_true'] at foreign
    exact ⟨target, aims, ⟨foreign.1.1, foreign.1.2⟩, foreign.2⟩
  · cases foreign

theorem not_emergencyStop {laddr direction : Int} {behind : List Int} (verb : line.verb = .set)
    (group : line.group = .gl) (runs : line.emergencyStop = false)
    (scanned : scanLongs 33 line.parameter = laddr :: direction :: behind) : direction ≠ 2 := by
  rw [CommandLine.emergencyStop, verb, group, scanned] at runs
  exact beq_eq_false_iff_ne.mp runs

theorem glTarget_cases (group : line.group = .gl) (aims : line.target = some target) :
    ∃ value rest, scanLong line.parameter = some (value, rest) ∧
      target = .gl line.bus (int32 value) := by
  simp only [CommandLine.target, group] at aims
  rcases Option.map_eq_some_iff.mp aims with ⟨⟨value, rest⟩, first, same⟩
  exact ⟨value, rest, first, same.symm⟩

theorem gaTarget_cases (group : line.group = .ga) (aims : line.target = some target) :
    ∃ value rest, scanLong line.parameter = some (value, rest) ∧
      target = .ga line.bus (int32 value) := by
  simp only [CommandLine.target, group] at aims
  rcases Option.map_eq_some_iff.mp aims with ⟨⟨value, rest⟩, first, same⟩
  exact ⟨value, rest, first, same.symm⟩

/-- What an `INIT GA` leaves. -/
theorem serve_initGA {rest behind : List Char} {prot : Char}
    (has : server.hasDevicegroup line.bus line.group = true) (verb : line.verb = .init)
    (group : line.group = .ga) (first : scanLong line.parameter = some (value, rest))
    (second : scanChar rest = some (prot, behind)) :
    serve server (env, line) =
      if 0 < int32 value ∧ int32 value ≤ (server.tables.ga line.bus).numberOfGa ∧
          prot ∈ (env.drivers.ga line.bus).protocols then
        some { server with
          tables := server.tables.setGa line.bus (int32 value)
            (initializedGA env.drivers server.tables env.now line.bus (int32 value) prot) }
      else some server := by
  rw [serve, handle, if_pos has, verb, group]
  change (initGA env.drivers server env.now line.bus line.parameter).map Answer.server = _
  unfold initGA
  rw [first]
  dsimp only
  rw [second]
  dsimp only
  split
  · rename_i accepted
    exact after_server (initGA_accepted accepted)
  · rename_i refused
    exact after_server (initGA_refused refused)

theorem serve_initGA_short (has : server.hasDevicegroup line.bus line.group = true)
    (verb : line.verb = .init) (group : line.group = .ga)
    (short : ∀ value rest, scanLong line.parameter = some (value, rest) → scanChar rest = none) :
    serve server (env, line) = some server := by
  rw [serve, handle, if_pos has, verb, group]
  change (initGA env.drivers server env.now line.bus line.parameter).map Answer.server = _
  unfold initGA
  split
  · rfl
  · rename_i value rest first
    rw [short value rest first]
    rfl

theorem serve_of_keeps (foreign : server.foreign line = true)
    (keeps : KeepsRecord env server line) : serve server (env, line) = some server := by
  rcases foreign_cases foreign with ⟨target, aims, locked, runs⟩
  by_cases has : server.hasDevicegroup line.bus line.group = true
  · rcases group : line.group with _ | _ | _ | _ | _
    · -- GL
      rcases glTarget_cases group aims with ⟨value, rest, first, rfl⟩
      rw [serve, handle, if_pos has, group]
      rcases verb : line.verb with _ | _ | _
      · refine setGL_leaves first locked ?_
        intro laddr direction behind scanned
        exact not_emergencyStop verb group runs scanned
      · exact initGL_leaves first locked
      · exact termGL_leaves first locked
    · -- GA
      rcases gaTarget_cases group aims with ⟨value, rest, first, rfl⟩
      rcases verb : line.verb with _ | _ | _
      · rw [serve, handle, if_pos has, group, verb]
        exact setGA_leaves first locked
      · rcases second : scanChar rest with _ | ⟨prot, behind⟩
        · apply serve_initGA_short has verb group
          intro value' rest' first'
          rw [first] at first'
          cases first'
          exact second
        · rw [serve_initGA has verb group first second]
          split
          · rename_i accepted
            have same := keeps has verb group value rest prot behind first second
              ⟨accepted.1, accepted.2.1⟩ accepted.2.2
            rw [setGa_eq_iff.mpr same]
          · rfl
      · rw [serve, handle, if_pos has, group, verb]
        exact termGA_leaves first locked
    · -- FB
      simp only [CommandLine.target, group] at aims
      cases aims
    · -- TIME
      simp only [CommandLine.target, group] at aims
      cases aims
    · -- LOCK
      rw [serve, handle, if_pos has, group]
      rcases verb : line.verb with _ | _ | _
      · exact setLOCK_leaves group aims locked
      · rfl
      · exact termLOCK_leaves group aims locked
  · rw [serve, handle, if_neg has]
    rfl

/-- A foreign command does not wait. -/
theorem exists_serve (foreign : server.foreign line = true) :
    ∃ next, serve server (env, line) = some next := by
  by_cases init : server.hasDevicegroup line.bus line.group = true ∧ line.verb = .init ∧
      line.group = .ga
  · rcases init with ⟨has, verb, group⟩
    rcases foreign_cases foreign with ⟨target, aims, -, -⟩
    rcases gaTarget_cases group aims with ⟨value, rest, first, -⟩
    rcases second : scanChar rest with _ | ⟨prot, behind⟩
    · refine ⟨server, serve_initGA_short has verb group ?_⟩
      intro value' rest' first'
      rw [first] at first'
      cases first'
      exact second
    · rw [serve_initGA has verb group first second]
      split
      · exact ⟨_, rfl⟩
      · exact ⟨_, rfl⟩
  · refine ⟨server, serve_of_keeps foreign ?_⟩
    intro has verb group
    exact absurd ⟨has, verb, group⟩ init

theorem untouched_refl : Untouched server server target := by
  cases target with
  | gl bus addr => exact ⟨rfl, rfl, rfl⟩
  | ga bus addr => exact ⟨rfl, rfl⟩

theorem isolates_iff_keeps :
    Isolates server (env, line) ↔ (server.foreign line = true → KeepsRecord env server line) := by
  constructor
  · intro isolates foreign has verb group addr rest prot behind first second inRange supported
    have accepted : 0 < int32 addr ∧ int32 addr ≤ (server.tables.ga line.bus).numberOfGa ∧
        prot ∈ (env.drivers.ga line.bus).protocols := ⟨inRange.1, inRange.2, supported⟩
    have aims : line.target = some (.ga line.bus (int32 addr)) := by
      simp only [CommandLine.target, group, first, Option.map_some]
    have served : serve server (env, line) = _ := serve_initGA has verb group first second
    rw [if_pos accepted] at served
    have untouched := (isolates foreign _ aims _ served).1
    simpa only [Tables.setGa, Function.update_self] using untouched
  · intro keeps foreign target aims next served
    rw [serve_of_keeps foreign (keeps foreign)] at served
    cases served
    exact untouched_refl

end Tests

/-! ## Whole runs -/

/-- The condition on one command. -/
def Keeps (server : Server) (command : Environment × CommandLine) : Prop :=
  server.foreign command.2 = true → KeepsRecord command.1 server command.2

section Runs

variable {server : Server} {commands : List (Environment × CommandLine)}

theorem meetsAlong_isolates_iff :
    MeetsAlong serve Isolates server commands ↔ MeetsAlong serve Keeps server commands := by
  induction commands generalizing server with
  | nil => exact Iff.rfl
  | cons command commands ih =>
      constructor
      · intro isolates next served
        exact ⟨isolates_iff_keeps.mp (isolates next served).1, ih.mp (isolates next served).2⟩
      · intro keeps next served
        exact ⟨isolates_iff_keeps.mpr (keeps next served).1, ih.mpr (keeps next served).2⟩

/-- A run is the same without the foreign commands. -/
theorem run_withoutForeign (keeps : MeetsAlong serve Keeps server commands) :
    run serve server (withoutForeign server commands) = run serve server commands := by
  induction commands generalizing server with
  | nil => rfl
  | cons command commands ih =>
      rw [withoutForeign]
      by_cases foreign : server.foreign command.2 = true
      · rw [if_pos foreign]
        rcases exists_serve foreign with ⟨next, served⟩
        have met := keeps next served
        have same := serve_of_keeps foreign (met.1 foreign)
        rw [served] at same
        cases same
        rw [run, served]
        exact ih met.2
      · rw [if_neg foreign]
        rcases served : serve server command with _ | next
        · rw [run, run, served]
        · rw [run, run, served]
          exact ih (keeps next served).2

end Runs

/-- Every foreign command of a run leaves its device alone under the condition, and no
other one; two runs that differ in foreign commands only end in the same state. -/
theorem isolates_iff (server : Server) (commands : List (Environment × CommandLine)) :
    (MeetsAlong serve Isolates server commands ↔ MeetsAlong serve Keeps server commands) ∧
      (MeetsAlong serve Isolates server commands →
        ∀ others, MeetsAlong serve Isolates server others →
          withoutForeign server commands = withoutForeign server others →
            run serve server commands = run serve server others) := by
  refine ⟨meetsAlong_isolates_iff, ?_⟩
  intro isolates others isolates' same
  rw [← run_withoutForeign (meetsAlong_isolates_iff.mp isolates),
    ← run_withoutForeign (meetsAlong_isolates_iff.mp isolates'), same]

/-- Session 2 initialises an accessory that session 1 has locked. -/
theorem foreign_init_touches :
    lockedServer.foreign ⟨.init, 1, .ga, 2, "5 P".toList⟩ = true ∧
      ¬ Isolates lockedServer (loopback, ⟨.init, 1, .ga, 2, "5 P".toList⟩) := by
  refine ⟨rfl, ?_⟩
  intro isolates
  have untouched := isolates rfl (.ga 1 5) rfl _ rfl
  have protocol := congrArg (fun device : GaDevice => device.protocol) untouched.1
  exact absurd protocol (by decide)

end Srcpd.Handlers
