import Mathlib.Data.List.Chain
import Srcpd.Feedback.Modul

/-!
# Feedback modules on the Selectrix bus

Without the automatic reports of a Rautenhaus interface the feedback thread asks for one
module after the other: it selects a module, the command thread sends the read command,
and the signal handler takes the answer for the module selected.  Nothing in an answer
tells which module it is of.  The command thread sends read commands of its own for a
command that reads or programs a decoder.  `run_reports` and `run_reports_below` are about
every interleaving of the three without such a command.

With the reports the interface sends addresses and data in turn;
`sigProcess_rautenhaus` says what becomes of any sequence of bytes.
-/

namespace Srcpd.Driver.SxFeedback

open Srcpd.Feedback Srcpd.Transition

/-- The configuration of a bus. -/
structure Config where
  numberFb : Int
  maxAddress : Int
  /-- `fb_adresses`; the modules count from 1. -/
  fbAdresses : Int → Int
  /-- The flags `Rautenhaus_MODE` and `Rautenhaus_FDBCK` are set. -/
  rautenhausFdbck : Bool

/-- A call of `setFBmodul`, and the address the byte was read from. -/
structure Report where
  module : Int
  source : Int
  data : BitVec 8
  deriving DecidableEq

/-- What the three parties share, and what is on its way between them. -/
structure State where
  stateInterface : Int
  currentFB : Int
  /-- `Rautenhaus_ADR`: the next byte is an address. -/
  rautenhausAdr : Bool
  busData : Int → BitVec 8
  respondtime : Nat
  /-- The address the command thread is about to send a read command for. -/
  sending : Option Int
  /-- The read commands the interface has not answered. -/
  asked : List Int
  reports : List Report

/-- Behind the start of the bus. -/
def State.start : State :=
  { stateInterface := 0
    currentFB := 1
    rautenhausAdr := true
    busData := fun _ => 0
    respondtime := 0
    sending := none
    asked := []
    reports := [] }

/-! ## The signal handler -/

/-- The search for an address; `left` is how many modules are still to be compared. -/
def search (config : Config) (data : Int) : Nat → Int → Int × Bool
  | 0, current => (current, false)
  | left + 1, current =>
      if data = config.fbAdresses current then (current, true)
      else search config data left (current + 1)

/-- A byte for the current module. -/
def State.report (config : Config) (state : State) (source : Int) (data : BitVec 8) : State :=
  { state with
    busData := Function.update state.busData (config.fbAdresses state.currentFB) data
    reports := state.reports ++ [⟨state.currentFB, source, data⟩] }

/-- The byte comes from the address `source`. -/
def sigProcess (config : Config) (state : State) (source : Int) (data : BitVec 8) : State :=
  if state.stateInterface = 2 then
    { state.report config source data with
      currentFB := if config.numberFb ≤ state.currentFB then 1 else state.currentFB + 1
      stateInterface := 0 }
  else if state.stateInterface = 10 ∨ state.stateInterface = 12 ∨ state.stateInterface = 14 then
    { state with stateInterface := state.stateInterface + 1 }
  else if config.rautenhausFdbck then
    if state.rautenhausAdr then
      let found := search config data.toNat config.numberFb.toNat 1
      { state with
        currentFB := found.1
        rautenhausAdr := !found.2 }
    else { state.report config source data with rautenhausAdr := true }
  else { state with stateInterface := 0, currentFB := 1 }

/-! ## The three parties -/

/-- One step of one of them. -/
inductive Action
  /-- A round of `thr_feedbackSelectrix`. -/
  | tick
  /-- `thr_commandSelectrix` finds a module selected. -/
  | select
  /-- `commandreadSXbus`. -/
  | ask
  /-- The answer to the oldest read command, or none. -/
  | answer (data : BitVec 8)
  | lose
  /-- `commandreadSXbus` for a command to a decoder. -/
  | smAsk (addr : Int)
  /-- `thr_commandSelectrix` begins to wait for the answer. -/
  | smWait (place : Int)
  /-- `readSXbus` behind that. -/
  | smRead

/-- A round without the reports of a Rautenhaus interface. -/
def tick (config : Config) (state : State) : State :=
  if 0 < config.numberFb ∧ ¬ config.rautenhausFdbck then
    if state.stateInterface = 0 then
      if config.fbAdresses state.currentFB < config.maxAddress then
        { state with stateInterface := 1, respondtime := 0 }
      else { state with stateInterface := 0, currentFB := 1, respondtime := 0 }
    else if state.stateInterface = 1 ∨ state.stateInterface = 2 then
      if 50 < state.respondtime + 1 then
        { state with stateInterface := 0, currentFB := 1, respondtime := 0 }
      else { state with respondtime := state.respondtime + 1 }
    else { state with stateInterface := 0, currentFB := 1, respondtime := 0 }
  else state

/-- The command thread does nothing between its two steps for a module. -/
def step (config : Config) : Step State Action
  | state, .tick => some (tick config state)
  | state, .select =>
      if 0 < config.numberFb ∧ state.stateInterface = 1 ∧ state.sending = none then
        some { state with
          sending := some (config.fbAdresses state.currentFB)
          stateInterface := 2 }
      else none
  | state, .ask =>
      match state.sending with
      | some addr => some { state with sending := none, asked := state.asked ++ [addr] }
      | none => none
  | state, .answer data =>
      match state.asked with
      | addr :: rest => some (sigProcess config { state with asked := rest } addr data)
      | [] => none
  | state, .lose =>
      match state.asked with
      | _ :: rest => some { state with asked := rest }
      | [] => none
  | state, .smAsk addr =>
      if state.sending = none then some { state with asked := state.asked ++ [addr] } else none
  | state, .smWait place =>
      if state.sending = none then some { state with stateInterface := place } else none
  | state, .smRead =>
      match state.sending, state.asked with
      | none, _ :: rest => some { state with asked := rest }
      | _, _ => none

/-! ## Polling -/

/-- The thread gives a module up only when no answer to it can come any more, and no command
for a decoder is processed. -/
def Prompt (state : State) : Action → Prop
  | .tick =>
      state.stateInterface = 2 → 50 ≤ state.respondtime → state.asked = [] ∧ state.sending = none
  | .smAsk _ | .smWait _ | .smRead => False
  | _ => True

/-- The module behind another one. -/
def Config.next (config : Config) (module : Int) : Int :=
  if config.numberFb ≤ module then 1 else module + 1

/-- A module is reported behind its predecessor, or the round begins again. -/
def Config.Follows (config : Config) (module following : Int) : Prop :=
  following = config.next module ∨ following = 1

/-- The modules reported, and before them the one behind which the first round begins. -/
def State.modules (config : Config) (state : State) : List Int :=
  config.numberFb :: state.reports.map Report.module

/-- One module is selected, at most one read command is on its way, for this module, and the
reports so far are as they should be. -/
structure Inv (config : Config) (state : State) : Prop where
  range : 1 ≤ state.currentFB ∧ state.currentFB ≤ config.numberFb
  interface : state.stateInterface = 0 ∨ state.stateInterface = 1 ∨ state.stateInterface = 2
  quiet : state.stateInterface ≠ 2 → state.asked = [] ∧ state.sending = none
  single : state.asked.length + state.sending.toList.length ≤ 1
  asked : ∀ addr ∈ state.asked, addr = config.fbAdresses state.currentFB
  sending : ∀ addr ∈ state.sending, addr = config.fbAdresses state.currentFB
  right : ∀ report ∈ state.reports, 1 ≤ report.module ∧ report.module ≤ config.numberFb ∧
    report.source = config.fbAdresses report.module
  chain : (state.modules config).IsChain config.Follows
  current : ∀ module ∈ (state.modules config).getLast?, config.Follows module state.currentFB

theorem Config.next_range {config : Config} (positive : 0 < config.numberFb) {module : Int}
    (first : 1 ≤ module) : 1 ≤ config.next module ∧ config.next module ≤ config.numberFb := by
  rw [Config.next]
  split <;> omega

/-- Every module may be followed by the first one. -/
theorem Inv.restart {config : Config} {state : State} (positive : 0 < config.numberFb)
    (inv : Inv config state) (asked : state.asked = []) (sending : state.sending = none) :
    Inv config { state with stateInterface := 0, currentFB := 1, respondtime := 0 } where
  range := ⟨Int.le_refl 1, positive⟩
  interface := Or.inl rfl
  quiet := fun _ => ⟨asked, sending⟩
  single := inv.single
  asked := by
    intro addr mem
    rw [show state.asked = [] from asked] at mem
    exact absurd mem List.not_mem_nil
  sending := by
    intro addr mem
    rw [show state.sending = none from sending] at mem
    cases mem
  right := inv.right
  chain := inv.chain
  current := fun _ _ => Or.inr rfl

theorem Inv.tick {config : Config} {state : State} (positive : 0 < config.numberFb)
    (inv : Inv config state) (prompt : Prompt state .tick) : Inv config (tick config state) := by
  rw [SxFeedback.tick]
  split
  · rcases inv.interface with zero | one | two
    · rw [if_pos zero]
      have quiet := inv.quiet (by rw [zero]; decide)
      split
      · exact { inv with
          interface := Or.inr (Or.inl rfl)
          quiet := fun _ => quiet }
      · exact inv.restart positive quiet.1 quiet.2
    · rw [if_neg (by rw [one]; decide), if_pos (Or.inl one)]
      have quiet := inv.quiet (by rw [one]; decide)
      split
      · exact inv.restart positive quiet.1 quiet.2
      · exact { inv with }
    · rw [if_neg (by rw [two]; decide), if_pos (Or.inr two)]
      split
      · have quiet := prompt two (by omega)
        exact inv.restart positive quiet.1 quiet.2
      · exact { inv with }
  · exact inv

theorem Inv.answer {config : Config} {state : State} {addr : Int} {rest : List Int}
    (positive : 0 < config.numberFb) (inv : Inv config state) (asked : state.asked = addr :: rest)
    (data : BitVec 8) : Inv config (sigProcess config { state with asked := rest } addr data) := by
  have two : state.stateInterface = 2 := by
    by_contra other
    rw [(inv.quiet other).1] at asked
    cases asked
  have single := inv.single
  rw [asked, List.length_cons] at single
  have none : state.sending = none := by
    cases sending : state.sending with
    | none => rfl
    | some other =>
        rw [sending, Option.toList_some, List.length_singleton] at single
        omega
  have last : rest = [] := List.length_eq_zero_iff.mp (by omega)
  have source := inv.asked addr (by rw [asked]; exact List.mem_cons_self)
  subst last
  rw [sigProcess, if_pos two]
  have nextRange := Config.next_range positive inv.range.1
  exact {
    range := nextRange
    interface := Or.inl rfl
    quiet := fun _ => ⟨rfl, none⟩
    single := by
      show 0 + state.sending.toList.length ≤ 1
      rw [none]
      exact Nat.zero_le 1
    asked := fun _ mem => absurd mem List.not_mem_nil
    sending := by
      intro other mem
      rw [show state.sending = Option.none from none] at mem
      cases mem
    right := by
      intro report mem
      rcases List.mem_append.mp mem with mem | mem
      · exact inv.right report mem
      · rw [List.mem_singleton.mp mem]
        exact ⟨inv.range.1, inv.range.2, source⟩
    chain := by
      show (config.numberFb ::
        (state.reports ++ [Report.mk state.currentFB addr data]).map Report.module).IsChain _
      rw [List.map_append, ← List.cons_append, List.isChain_append]
      refine ⟨inv.chain, List.IsChain.singleton _, ?_⟩
      intro module mem following mem'
      cases mem'
      exact inv.current module mem
    current := by
      intro module mem
      have shape : (config.numberFb :: (state.reports ++
          [Report.mk state.currentFB addr data]).map Report.module).getLast? = some module := mem
      rw [List.map_append, ← List.cons_append, List.map_singleton, List.getLast?_concat] at shape
      cases shape
      exact Or.inl rfl }

theorem Inv.select {config : Config} {state : State} (inv : Inv config state)
    (one : state.stateInterface = 1) :
    Inv config { state with
      sending := some (config.fbAdresses state.currentFB)
      stateInterface := 2 } := by
  have quiet := inv.quiet (by rw [one]; decide)
  exact { inv with
    interface := Or.inr (Or.inr rfl)
    quiet := fun other => absurd rfl other
    single := by
      show state.asked.length + 1 ≤ 1
      rw [quiet.1]
      exact Nat.le_refl 1
    sending := fun _ mem => (Option.mem_some_iff.mp mem).symm }

theorem Inv.ask {config : Config} {state : State} {addr : Int} (inv : Inv config state)
    (sending : state.sending = some addr) :
    Inv config { state with sending := none, asked := state.asked ++ [addr] } := by
  have single := inv.single
  rw [sending, Option.toList_some, List.length_singleton] at single
  have empty : state.asked = [] := List.length_eq_zero_iff.mp (by omega)
  exact { inv with
    quiet := by
      intro other
      have none := (inv.quiet other).2
      rw [sending] at none
      cases none
    single := by
      show (state.asked ++ [addr]).length + 0 ≤ 1
      rw [empty]
      exact Nat.le_refl 1
    asked := by
      intro other mem
      have same : other ∈ state.asked ++ [addr] := mem
      rw [empty, List.nil_append] at same
      rw [List.mem_singleton.mp same]
      exact inv.sending addr sending
    sending := by
      intro other mem
      cases mem }

theorem Inv.lose {config : Config} {state : State} {addr : Int} {rest : List Int}
    (inv : Inv config state) (asked : state.asked = addr :: rest) :
    Inv config { state with asked := rest } :=
  { inv with
    quiet := by
      intro other
      have none := (inv.quiet other).1
      rw [asked] at none
      cases none
    single := by
      have single := inv.single
      rw [asked, List.length_cons] at single
      show rest.length + state.sending.toList.length ≤ 1
      omega
    asked := by
      intro other mem
      apply inv.asked other
      rw [asked]
      exact List.mem_cons_of_mem addr mem }

theorem step_inv {config : Config} (positive : 0 < config.numberFb) (state : State)
    (action : Action) (next : State) (inv : Inv config state) (prompt : Prompt state action)
    (taken : step config state action = some next) : Inv config next := by
  cases action with
  | tick =>
      cases taken
      exact inv.tick positive prompt
  | select =>
      rw [step] at taken
      split at taken
      · rename_i selected
        cases taken
        exact inv.select selected.2.1
      · cases taken
  | ask =>
      rw [step] at taken
      split at taken
      · rename_i addr sending
        cases taken
        exact inv.ask sending
      · cases taken
  | answer data =>
      rw [step] at taken
      split at taken
      · rename_i addr rest asked
        cases taken
        exact inv.answer positive asked data
      · cases taken
  | lose =>
      rw [step] at taken
      split at taken
      · rename_i addr rest asked
        cases taken
        exact inv.lose asked
      · cases taken
  | smAsk => exact prompt.elim
  | smWait => exact prompt.elim
  | smRead => exact prompt.elim

theorem start_inv {config : Config} (positive : 0 < config.numberFb) : Inv config .start where
  range := ⟨Int.le_refl 1, positive⟩
  interface := Or.inl rfl
  quiet := fun _ => ⟨rfl, rfl⟩
  single := Nat.zero_le 1
  asked := fun _ mem => absurd mem List.not_mem_nil
  sending := by
    intro addr mem
    cases mem
  right := fun _ mem => absurd mem List.not_mem_nil
  chain := List.IsChain.singleton _
  current := fun _ _ => Or.inr rfl

/-- For every interleaving of the feedback thread, the command thread, the interface and
its losses in which no answer comes after its module was given up and no command for a decoder
is processed: each byte is reported for the module whose address it was read from, and the
modules are reported round robin, except that the round may begin again. -/
theorem run_reports {config : Config} (positive : 0 < config.numberFb) {actions : List Action}
    {state : State} (prompt : MeetsAlong (step config) Prompt .start actions)
    (executed : run (step config) .start actions = some state) :
    (∀ report ∈ state.reports, 1 ≤ report.module ∧ report.module ≤ config.numberFb ∧
      report.source = config.fbAdresses report.module) ∧
    (state.modules config).IsChain config.Follows := by
  have inv := run_invariant_of_meets (step_inv positive) (start_inv positive) prompt executed
  exact ⟨inv.right, inv.chain⟩

/-- Three modules. -/
def threeModules : Config :=
  { numberFb := 3
    maxAddress := 112
    fbAdresses := fun module => 80 + module
    rautenhausFdbck := false }

/-- A module that is selected, asked and answers. -/
def served (data : BitVec 8) : List Action :=
  [.tick, .select, .ask, .answer data]

/-- One module is served. -/
theorem served_prompt (data : BitVec 8) :
    MeetsAlong (step threeModules) Prompt .start (served data) := by
  refine (meetsAlong_cons_iff rfl).mpr ⟨fun two => absurd two (by decide), ?_⟩
  refine (meetsAlong_cons_iff rfl).mpr ⟨trivial, ?_⟩
  refine (meetsAlong_cons_iff rfl).mpr ⟨trivial, ?_⟩
  exact (meetsAlong_cons_iff rfl).mpr ⟨trivial, trivial⟩

theorem run_reports_one :
    ∃ state, run (step threeModules) .start (served 1) = some state ∧
      (∀ report ∈ state.reports, 1 ≤ report.module ∧ report.module ≤ threeModules.numberFb ∧
        report.source = threeModules.fbAdresses report.module) ∧
      (state.modules threeModules).IsChain threeModules.Follows :=
  ⟨_, rfl, run_reports (by decide) (served_prompt 1) rfl⟩

set_option maxRecDepth 2000 in
/-- An answer after its module was given up is taken for the first module. -/
example :
    (run (step threeModules) .start
      (served 1 ++ [.tick, .select, .ask] ++ List.replicate 51 .tick ++
        [.tick, .select, .answer 7])).any fun state =>
          (⟨1, threeModules.fbAdresses 2, 7⟩ : Report) ∈ state.reports := by
  decide

/-- The answer to a read command of the command thread is taken for the module whose answer was
lost. -/
example :
    (run (step threeModules) .start [.tick, .select, .ask, .lose, .smAsk 109, .answer 7]).any
      fun state => (⟨1, 109, 7⟩ : Report) ∈ state.reports := by
  decide

/-! ### A module that does not answer -/

theorem Config.Follows.below {config : Config} {silent : Int} :
    ∀ {first : Int} {modules : List Int}, (first :: modules).IsChain config.Follows →
      silent ∉ modules → (first = config.numberFb ∨ first < silent) → 1 < silent →
      ∀ module ∈ modules, module < silent := by
  intro first modules chain absent begins later
  induction modules generalizing first with
  | nil => exact fun _ mem => absurd mem List.not_mem_nil
  | cons module modules ih =>
      rw [List.isChain_cons_cons] at chain
      rw [List.mem_cons, not_or] at absent
      have below : module < silent := by
        rcases chain.1 with next | again
        · rw [Config.next] at next
          split at next
          · omega
          · rcases begins with last | before <;> omega
        · omega
      intro other mem
      rcases List.mem_cons.mp mem with rfl | mem
      · exact below
      · exact ih chain.2 absent.2 (Or.inr below) other mem

/-- A module that never answers keeps all modules behind it from being reported. -/
theorem run_reports_below {config : Config} (positive : 0 < config.numberFb)
    {actions : List Action} {state : State} {silent : Int} (later : 1 < silent)
    (prompt : MeetsAlong (step config) Prompt .start actions)
    (executed : run (step config) .start actions = some state)
    (unanswered : ∀ report ∈ state.reports, report.source ≠ config.fbAdresses silent) :
    ∀ report ∈ state.reports, report.module < silent := by
  have inv := run_invariant_of_meets (step_inv positive) (start_inv positive) prompt executed
  have absent : silent ∉ state.reports.map Report.module := by
    intro mem
    obtain ⟨report, mem, same⟩ := List.mem_map.mp mem
    apply unanswered report mem
    rw [(inv.right report mem).2.2, same]
  intro report mem
  exact Config.Follows.below inv.chain absent (Or.inl rfl) later report.module
    (List.mem_map_of_mem mem)

/-- Only the first of three modules answers. -/
theorem run_reports_below_one :
    ∃ state, run (step threeModules) .start (served 1) = some state ∧
      ∀ report ∈ state.reports, report.module < 2 := by
  refine ⟨_, rfl, run_reports_below (by decide) (by decide) (served_prompt 1) rfl ?_⟩
  decide

/-! ## Reports of a Rautenhaus interface -/

/-- The first module with an address. -/
def Config.lookup (config : Config) (address : BitVec 8) : Option Int :=
  let found := search config address.toNat config.numberFb.toNat 1
  if found.2 then some found.1 else none

/-- What a sequence of bytes reports: bytes that are no address of a module are passed over
until one is, and the byte behind an address is its data. -/
def reportsOf (config : Config) : List (BitVec 8) → List (Int × BitVec 8)
  | [] => []
  | [_] => []
  | address :: data :: rest =>
      match config.lookup address with
      | none => reportsOf config (data :: rest)
      | some module => (module, data) :: reportsOf config rest

theorem search_spec (config : Config) (data : Int) (left : Nat) (current : Int) :
    (∀ module, search config data left current = (module, true) →
      current ≤ module ∧ module < current + left ∧ config.fbAdresses module = data ∧
        ∀ other, current ≤ other → other < module → config.fbAdresses other ≠ data) ∧
    ((search config data left current).2 = false →
      ∀ other, current ≤ other → other < current + left → config.fbAdresses other ≠ data) := by
  induction left generalizing current with
  | zero =>
      constructor
      · intro module found
        cases found
      · intro _ other lower upper
        omega
  | succ left ih =>
      rw [search]
      by_cases here : data = config.fbAdresses current
      · rw [if_pos here]
        constructor
        · intro module found
          cases found
          exact ⟨Int.le_refl _, by omega, here.symm, fun other lower upper => by omega⟩
        · intro missing
          cases missing
      · rw [if_neg here]
        obtain ⟨finds, misses⟩ := ih (current + 1)
        constructor
        · intro module found
          obtain ⟨lower, upper, same, first⟩ := finds module found
          refine ⟨by omega, by omega, same, ?_⟩
          intro other least before
          by_cases now : other = current
          · rw [now]
            exact fun same => here same.symm
          · exact first other (by omega) before
        · intro missing other least most
          by_cases now : other = current
          · rw [now]
            exact fun same => here same.symm
          · exact misses missing other (by omega) (by omega)

theorem Config.lookup_eq_some {config : Config} {address : BitVec 8} {module : Int}
    (found : config.lookup address = some module) :
    1 ≤ module ∧ module ≤ config.numberFb ∧ config.fbAdresses module = address.toNat ∧
      ∀ other, 1 ≤ other → other < module → config.fbAdresses other ≠ address.toNat := by
  rw [lookup] at found
  cases result : search config address.toNat config.numberFb.toNat 1 with
  | mk place hit =>
      rw [result] at found
      cases hit with
      | false => cases found
      | true =>
          cases found
          obtain ⟨lower, upper, same, first⟩ :=
            (search_spec config address.toNat config.numberFb.toNat 1).1 place result
          exact ⟨lower, by omega, same, first⟩

/-- The handler expects no answer to a read command. -/
def State.Idle (state : State) : Prop :=
  state.stateInterface ≠ 2 ∧
    ¬ (state.stateInterface = 10 ∨ state.stateInterface = 12 ∨ state.stateInterface = 14)

/-- The module and the data of a report. -/
def Report.told (report : Report) : Int × BitVec 8 :=
  (report.module, report.data)

variable {config : Config} {state : State}

theorem sigProcess_address (fdbck : config.rautenhausFdbck = true) (idle : state.Idle)
    (adr : state.rautenhausAdr = true) (source : Int) (data : BitVec 8) :
    let next := sigProcess config state source data
    next.Idle ∧ next.reports = state.reports ∧
      (config.lookup data = none → next.rautenhausAdr = true) ∧
      ∀ module, config.lookup data = some module →
        next.rautenhausAdr = false ∧ next.currentFB = module := by
  intro next
  have shape : next =
      { state with
        currentFB := (search config data.toNat config.numberFb.toNat 1).1
        rautenhausAdr := !(search config data.toNat config.numberFb.toNat 1).2 } := by
    simp only [next, sigProcess, if_neg idle.1, if_neg idle.2, if_pos fdbck, if_pos adr]
  rw [shape]
  refine ⟨idle, rfl, ?_, ?_⟩
  · intro missing
    rw [Config.lookup] at missing
    dsimp only at missing ⊢
    split at missing
    · cases missing
    · rename_i unset
      rw [Bool.not_eq_true] at unset
      rw [unset]
      rfl
  · intro module found
    rw [Config.lookup] at found
    dsimp only at found ⊢
    split at found
    · rename_i hit
      cases found
      rw [hit]
      exact ⟨rfl, rfl⟩
    · cases found

theorem sigProcess_data (fdbck : config.rautenhausFdbck = true) (idle : state.Idle)
    (data : state.rautenhausAdr = false) (source : Int) (byte : BitVec 8) :
    let next := sigProcess config state source byte
    next.Idle ∧ next.rautenhausAdr = true ∧
      next.reports.map Report.told =
        state.reports.map Report.told ++ [(state.currentFB, byte)] := by
  intro next
  have shape : next = { state.report config source byte with rautenhausAdr := true } := by
    simp only [next, sigProcess, if_neg idle.1, if_neg idle.2, if_pos fdbck, data,
      Bool.false_eq_true, if_false]
  rw [shape]
  refine ⟨idle, rfl, ?_⟩
  show (state.reports ++ [_]).map Report.told = _
  rw [List.map_append]
  rfl

theorem foldl_sigProcess (fdbck : config.rautenhausFdbck = true) (source : Int)
    (bytes : List (BitVec 8)) (idle : state.Idle) (adr : state.rautenhausAdr = true) :
    (bytes.foldl (fun state byte => sigProcess config state source byte) state).reports.map
        Report.told =
      state.reports.map Report.told ++ reportsOf config bytes := by
  induction bytes using reportsOf.induct config generalizing state with
  | case1 => exact (List.append_nil _).symm
  | case2 byte =>
      rw [List.foldl_cons, List.foldl_nil, (sigProcess_address fdbck idle adr source byte).2.1]
      exact (List.append_nil _).symm
  | case3 address data rest missing ih =>
      obtain ⟨idleAfter, kept, waits, _⟩ := sigProcess_address fdbck idle adr source address
      rw [List.foldl_cons, ih idleAfter (waits missing), kept, reportsOf, missing]
  | case4 address data rest module found ih =>
      obtain ⟨idleAfter, kept, _, hit⟩ := sigProcess_address fdbck idle adr source address
      obtain ⟨data', current⟩ := hit module found
      obtain ⟨idleLast, adrLast, told⟩ := sigProcess_data fdbck idleAfter data' source data
      rw [List.foldl_cons, List.foldl_cons, ih idleLast adrLast, told, kept, current, reportsOf,
        found, List.append_assoc]
      rfl

theorem reportsOf_pairs (config : Config) (pairs : List (BitVec 8 × BitVec 8))
    (known : ∀ pair ∈ pairs, (config.lookup pair.1).isSome = true) :
    (reportsOf config (pairs.flatMap fun pair => [pair.1, pair.2])).map some =
      pairs.map fun pair => (config.lookup pair.1).map fun module => (module, pair.2) := by
  induction pairs with
  | nil => rfl
  | cons pair pairs ih =>
      obtain ⟨module, found⟩ := Option.isSome_iff_exists.mp (known pair List.mem_cons_self)
      have rest := ih fun other mem => known other (List.mem_cons_of_mem _ mem)
      rw [List.flatMap_cons, List.cons_append, List.cons_append, List.nil_append, reportsOf, found,
        List.map_cons, List.map_cons, rest, found]
      rfl

/-- For every sequence of bytes from an interface with reports: they are taken as
`reportsOf` says, each report names the first module with its address, and pairs of an
address and data are all reported when all addresses are those of modules. -/
theorem sigProcess_rautenhaus (fdbck : config.rautenhausFdbck = true) (source : Int)
    (bytes : List (BitVec 8)) :
    let last := bytes.foldl (fun state byte => sigProcess config state source byte) .start
    last.reports.map Report.told = reportsOf config bytes ∧
      (∀ (address : BitVec 8) (module : Int), config.lookup address = some module →
        1 ≤ module ∧ module ≤ config.numberFb ∧ config.fbAdresses module = address.toNat ∧
          ∀ other, 1 ≤ other → other < module → config.fbAdresses other ≠ address.toNat) ∧
      ∀ pairs : List (BitVec 8 × BitVec 8),
        (∀ pair ∈ pairs, (config.lookup pair.1).isSome = true) →
        bytes = pairs.flatMap (fun pair => [pair.1, pair.2]) →
        (last.reports.map Report.told).map some =
          pairs.map fun pair => (config.lookup pair.1).map fun module => (module, pair.2) := by
  intro last
  have idle : State.start.Idle := ⟨by decide, by decide⟩
  have told : last.reports.map Report.told = reportsOf config bytes :=
    foldl_sigProcess fdbck source bytes idle rfl
  refine ⟨told, fun address module found => Config.lookup_eq_some found, ?_⟩
  rintro pairs known rfl
  rw [told]
  exact reportsOf_pairs config pairs known

/-- A module that is not configured sends: its data are taken for an address. -/
example :
    reportsOf { threeModules with rautenhausFdbck := true } [90, 81, 82, 5] = [(1, 82)] := by
  decide

theorem sigProcess_rautenhaus_unknown :
    let config := { threeModules with rautenhausFdbck := true }
    let last := [90, 81, 82, 5].foldl (fun state byte => sigProcess config state 0 byte) .start
    last.reports.map Report.told = reportsOf config [90, 81, 82, 5] := by
  intro config last
  have fdbck : config.rautenhausFdbck = true := rfl
  exact (sigProcess_rautenhaus fdbck 0 [90, 81, 82, 5]).1

end Srcpd.Driver.SxFeedback
