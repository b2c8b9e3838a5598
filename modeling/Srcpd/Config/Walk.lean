import Mathlib.Tactic

/-!
# The walk through the configuration

`walk_config_xml` gives the bus elements of a document to `register_bus`, which
lets the reader of every driver element in it take the next bus numbers.  The
limit is tested once for a bus element, before its drivers are read.
`safe_walkConfigXml_iff` says for which documents this is enough.
-/

namespace Srcpd.Config

/-- Max number of integrated buses. -/
def maxBuses : Nat := 20

/-- The arrays with an entry for each bus. -/
inductive Table
  | buses
  | gl
  | ga
  | fb
  | minTime
  deriving DecidableEq

/-- An entry of a table, by its index. -/
abbrev Access := Table × Nat

/-- The elements of the configuration that name a driver. -/
inductive DriverName
  | ddl
  | ddlS88
  | hsi88
  | i2cDev
  | intellibox
  | li100usb
  | li100
  | loconet
  | loopback
  | m605x
  | selectrix
  | zimo
  | dccar
  deriving DecidableEq

/-- An element for a driver; `allocated` is whether there is memory for its data, `sets`
which of the arrays its settings ask for. -/
structure Driver where
  name : DriverName
  allocated : Bool
  sets : Table → Bool

/-- The children of a bus element. -/
inductive Child
  | server
  | driver (driver : Driver)
  /-- `device`, `verbosity` and so on. -/
  | setting
  /-- Text, a comment, an unknown tag or a driver that is not compiled in. -/
  | other

/-- The children of the document root. -/
inductive Node
  | bus (children : List Child)
  | other

/-- `init_GL`, `init_GA`, `init_FB` and `set_min_time` test the bus number. -/
def initTable (table : Table) (busnumber : Nat) : List Access :=
  if maxBuses ≤ busnumber then [] else [(table, busnumber)]

/-- The tables that a driver fills for its bus. -/
def DriverName.tables : DriverName → List Table
  | .ddl => [.ga, .gl]
  | .ddlS88 => []
  | .hsi88 => [.minTime, .fb]
  | .i2cDev => [.ga, .gl, .fb]
  | .intellibox => [.minTime]
  | .li100usb => [.minTime]
  | .li100 => [.minTime]
  | .loconet => [.fb, .ga, .gl]
  | .loopback => [.gl, .ga, .fb]
  | .m605x => [.minTime, .ga, .gl, .fb]
  | .selectrix => [.gl, .ga, .fb]
  | .zimo => [.minTime, .gl, .ga, .fb]
  | .dccar => [.gl]

/-- The number of buses that the reader of a driver returns. -/
def DriverName.buses : DriverName → Nat
  | .ddlS88 => 4
  | _ => 1

/-- The S88 driver sets up the following buses as well, whatever their numbers are. -/
def readconfigDDLS88 (driver : Driver) (busnumber : Nat) : List Access :=
  (List.range' busnumber 4).map (fun bus => (.buses, bus)) ++
    (if driver.sets .minTime then initTable .minTime busnumber else []) ++
    (if driver.sets .fb then (List.range' busnumber 4).flatMap (initTable .fb) else [])

/-- The number that is returned, and the writes. -/
def Driver.readconfig (driver : Driver) (busnumber : Nat) : Nat × List Access :=
  if driver.allocated then
    (driver.name.buses,
      if driver.name = .ddlS88 then readconfigDDLS88 driver busnumber
      else (.buses, busnumber) ::
        (driver.name.tables.filter driver.sets).flatMap fun table => initTable table busnumber)
  else (0, [(.buses, busnumber)])

/-- What the loop over the buses has done so far. -/
structure Walk where
  /-- The next bus number. -/
  bus : Nat
  /-- The bus numbers that were given to a driver. -/
  assigned : List Nat
  writes : List Access

/-- One child of a `bus` element: the server takes bus 0, a driver the next number. -/
def registerChild (current : Nat) (walk : Walk) : Child → Walk
  | .server =>
      if walk.bus = 0 then
        { bus := walk.bus + 1
          assigned := walk.assigned ++ [walk.bus]
          writes := walk.writes ++ [(.buses, 0)] }
      else walk
  | .driver driver =>
      let read := driver.readconfig walk.bus
      { bus := walk.bus + read.1
        assigned := walk.assigned ++ List.range' walk.bus read.1
        writes := walk.writes ++ read.2 }
  | .setting => { walk with writes := walk.writes ++ [(.buses, current)] }
  | .other => walk

/-- The limit is tested before the default values are written. -/
def registerBus (walk : Walk) : Node → Walk
  | .other => walk
  | .bus children =>
      if maxBuses ≤ walk.bus then walk
      else
        children.foldl (registerChild walk.bus)
          { walk with writes := walk.writes ++ [(.buses, walk.bus)] }

/-- The walk with the number of the last bus. -/
structure Walked where
  walk : Walk
  /-- An `unsigned long`. -/
  numBuses : BitVec 64

/-- Before the document nothing is registered. -/
def Walked.start : Walked :=
  { walk := { bus := 0, assigned := [], writes := [] }, numBuses := 0 }

/-- One `bus` element, and the number of buses behind it. -/
def walkNode (config : Walked) (node : Node) : Walked :=
  let walk := registerBus config.walk node
  { walk := walk, numBuses := BitVec.ofNat 64 walk.bus - 1 }

/-- `walk_config_xml`, over all elements of the document. -/
def walkConfigXml (document : List Node) : Walked :=
  document.foldl walkNode Walked.start

/-- No number and no write is out of range. -/
structure Walk.InBounds (walk : Walk) : Prop where
  assigned : ∀ bus ∈ walk.assigned, bus < maxBuses
  writes : ∀ access ∈ walk.writes, access.2 < maxBuses

/-- Also, the buses up to `num_buses` are those that were given to a driver, each once. -/
structure Walked.Safe (config : Walked) : Prop where
  inBounds : config.walk.InBounds
  distinct : config.walk.assigned.Nodup
  counted : config.walk.assigned ≠ [] →
    config.numBuses = BitVec.ofNat 64 (config.walk.assigned.length - 1)

/-! ## Documents that fit -/

/-- The buses of a child behind `n` others; only bus 0 is a server. -/
def Child.buses (n : Nat) : Child → Nat
  | .server => if n = 0 then 1 else 0
  | .driver found => if found.allocated then found.name.buses else 0
  | _ => 0

/-- The entries that the reader of a driver claims, also when it finds no memory. -/
def Child.claims : Child → Nat
  | .driver found => if found.allocated then found.name.buses else 1
  | _ => 0

/-- The drivers of a bus element stay below the limit. -/
def ChildrenFit : Nat → List Child → Prop
  | _, [] => True
  | n, child :: children =>
      (child.claims ≠ 0 → n + child.claims ≤ maxBuses) ∧ ChildrenFit (n + child.buses n) children

/-- The bus number behind a list of children. -/
def childrenBuses : Nat → List Child → Nat
  | n, [] => n
  | n, child :: children => childrenBuses (n + child.buses n) children

/-- The same for all bus elements that begin below the limit. -/
def Fits : Nat → List Node → Prop
  | _, [] => True
  | n, .other :: nodes => Fits n nodes
  | n, .bus children :: nodes =>
      if n < maxBuses then ChildrenFit n children ∧ Fits (childrenBuses n children) nodes
      else Fits n nodes

theorem initTable_lt {table : Table} {busnumber : Nat} {access : Access}
    (mem : access ∈ initTable table busnumber) : access.2 < maxBuses := by
  rw [initTable] at mem
  split at mem
  · cases mem
  · rename_i below
    rw [List.mem_singleton.mp mem]
    exact not_le.mp below

theorem Walk.inBounds_iff_append {walk next : Walk} {numbers : List Nat} {accesses : List Access}
    (assigned : next.assigned = walk.assigned ++ numbers)
    (writes : next.writes = walk.writes ++ accesses) :
    next.InBounds ↔ walk.InBounds ∧ (∀ bus ∈ numbers, bus < maxBuses) ∧
      ∀ access ∈ accesses, access.2 < maxBuses := by
  constructor
  · rintro ⟨below, inside⟩
    rw [assigned, List.forall_mem_append] at below
    rw [writes, List.forall_mem_append] at inside
    exact ⟨⟨below.1, inside.1⟩, below.2, inside.2⟩
  · rintro ⟨⟨below, inside⟩, newBelow, newInside⟩
    constructor
    · rw [assigned, List.forall_mem_append]
      exact ⟨below, newBelow⟩
    · rw [writes, List.forall_mem_append]
      exact ⟨inside, newInside⟩

theorem Walk.inBounds_write_iff {walk : Walk} {access : Access} :
    Walk.InBounds { walk with writes := walk.writes ++ [access] } ↔
      walk.InBounds ∧ access.2 < maxBuses := by
  rw [@Walk.inBounds_iff_append walk { walk with writes := walk.writes ++ [access] } [] [access]
    (List.append_nil _).symm rfl]
  simp

theorem readconfigDDLS88_lt_iff {driver : Driver} {n : Nat} :
    (∀ access ∈ readconfigDDLS88 driver n, access.2 < maxBuses) ↔ n + 4 ≤ maxBuses := by
  constructor
  · intro inside
    have last := inside (.buses, n + 3) (List.mem_append_left _ (List.mem_append_left _
      (List.mem_map_of_mem (by simp [List.range']))))
    omega
  · intro fits access mem
    rw [readconfigDDLS88, List.mem_append, List.mem_append] at mem
    rcases mem with (mem | mem) | mem
    · rcases List.mem_map.mp mem with ⟨bus, range, rfl⟩
      have bound := List.mem_range'_1.mp range
      change bus < maxBuses
      omega
    · split at mem
      · exact initTable_lt mem
      · cases mem
    · split at mem
      · rcases List.mem_flatMap.mp mem with ⟨bus, _, mem⟩
        exact initTable_lt mem
      · cases mem

/-- What a driver is given and writes is in range exactly when its entries are. -/
theorem Driver.readconfig_inBounds_iff (driver : Driver) (n : Nat) :
    ((∀ bus ∈ List.range' n (driver.readconfig n).1, bus < maxBuses) ∧
      ∀ access ∈ (driver.readconfig n).2, access.2 < maxBuses) ↔
      n + (Child.driver driver).claims ≤ maxBuses := by
  rw [Driver.readconfig, Child.claims]
  split
  · dsimp only
    by_cases s88 : driver.name = .ddlS88
    · rw [if_pos s88, readconfigDDLS88_lt_iff, s88]
      constructor
      · exact And.right
      · refine fun fits => ⟨fun bus mem => ?_, fits⟩
        have bound := (List.mem_range'_1.mp mem).2
        change bus < n + 4 at bound
        change n + 4 ≤ maxBuses at fits
        omega
    · have one : driver.name.buses = 1 := by
        cases name : driver.name with
        | ddlS88 => exact absurd name s88
        | _ => rfl
      rw [if_neg s88, one]
      constructor
      · rintro ⟨below, _⟩
        exact below n (by simp)
      · intro fits
        constructor
        · intro bus mem
          have bound := (List.mem_range'_1.mp mem).2
          omega
        · intro access mem
          rcases List.mem_cons.mp mem with rfl | mem
          · exact fits
          · rcases List.mem_flatMap.mp mem with ⟨table, _, mem⟩
            exact initTable_lt mem
  · dsimp only
    constructor
    · rintro ⟨_, inside⟩
      exact inside (.buses, n) List.mem_cons_self
    · intro fits
      constructor
      · intro bus mem
        cases mem
      · intro access mem
        rw [List.mem_singleton.mp mem]
        exact fits

section Walk

variable {walk : Walk}

/-- One child adds its buses and keeps to the limit exactly when its claims do. -/
theorem registerChild_bus (current : Nat) (walk : Walk) (child : Child) :
    (registerChild current walk child).bus = walk.bus + child.buses walk.bus := by
  cases child with
  | server =>
      rw [registerChild, Child.buses]
      split <;> rfl
  | driver found =>
      rw [registerChild, Child.buses, Driver.readconfig]
      split <;> rfl
  | setting | other => rfl

theorem registerChild_inBounds_iff {current : Nat} (below : current < maxBuses) (child : Child) :
    (registerChild current walk child).InBounds ↔
      walk.InBounds ∧ (child.claims ≠ 0 → walk.bus + child.claims ≤ maxBuses) := by
  cases child with
  | server =>
      rw [registerChild]
      split
      · rename_i first
        rw [Walk.inBounds_iff_append rfl rfl]
        refine and_congr_right fun _ => iff_of_true ?_ (fun claims => absurd rfl claims)
        rw [first]
        constructor <;> simp [maxBuses]
      · exact (and_iff_left fun claims => absurd rfl claims).symm
  | driver found =>
      have claims : (Child.driver found).claims ≠ 0 := by
        rw [Child.claims]
        split
        · cases found.name <;> decide
        · decide
      rw [registerChild, Walk.inBounds_iff_append rfl rfl, found.readconfig_inBounds_iff]
      exact and_congr_right fun _ => ⟨fun fits _ => fits, fun fits => fits claims⟩
  | setting =>
      rw [registerChild, Walk.inBounds_write_iff]
      exact and_congr_right fun _ => iff_of_true below (fun claims => absurd rfl claims)
  | other => exact (and_iff_left fun claims => absurd rfl claims).symm

theorem registerChildren_inBounds_iff {current : Nat} (below : current < maxBuses)
    (children : List Child) (walk : Walk) :
    (children.foldl (registerChild current) walk).InBounds ↔
      walk.InBounds ∧ ChildrenFit walk.bus children := by
  induction children generalizing walk with
  | nil => exact (and_iff_left trivial).symm
  | cons child children ih =>
      rw [List.foldl_cons, ih, registerChild_inBounds_iff below, registerChild_bus, and_assoc]
      rfl

theorem registerChildren_bus (current : Nat) (children : List Child) (walk : Walk) :
    (children.foldl (registerChild current) walk).bus = childrenBuses walk.bus children := by
  induction children generalizing walk with
  | nil => rfl
  | cons child children ih =>
      rw [List.foldl_cons, ih, registerChild_bus]
      rfl

/-- The numbers given to drivers are the numbers up to the next one. -/
theorem registerChild_assigned {current : Nat} (numbered : walk.assigned = List.range walk.bus)
    (child : Child) : (registerChild current walk child).assigned =
      List.range (registerChild current walk child).bus := by
  cases child with
  | server =>
      rw [registerChild]
      split
      · dsimp only
        rw [numbered, List.range_succ]
      · exact numbered
  | driver found =>
      rw [registerChild]
      dsimp only
      have join := @List.range'_append_1 0 walk.bus (found.readconfig walk.bus).1
      rw [Nat.zero_add] at join
      rw [numbered, List.range_eq_range', List.range_eq_range', join]
  | setting | other => exact numbered

theorem registerBus_assigned (numbered : walk.assigned = List.range walk.bus) (node : Node) :
    (registerBus walk node).assigned = List.range (registerBus walk node).bus := by
  cases node with
  | other => exact numbered
  | bus children =>
      rw [registerBus]
      split
      · exact numbered
      · suffices every : ∀ (children : List Child) (start : Walk),
            start.assigned = List.range start.bus →
            (children.foldl (registerChild walk.bus) start).assigned =
              List.range (children.foldl (registerChild walk.bus) start).bus from
          every children _ numbered
        intro children
        induction children with
        | nil => exact fun _ numbered => numbered
        | cons child children ih =>
            intro start numbered
            exact ih _ (registerChild_assigned numbered child)

end Walk

/-- A walk that has numbered its buses so far. -/
structure Walked.Numbered (config : Walked) : Prop where
  assigned : config.walk.assigned = List.range config.walk.bus
  counted : config.walk.assigned ≠ [] →
    config.numBuses = BitVec.ofNat 64 (config.walk.assigned.length - 1)

theorem Walked.Numbered.walkNode {config : Walked} (numbered : config.Numbered) (node : Node) :
    (walkNode config node).Numbered := by
  have assigned := registerBus_assigned numbered.assigned node
  constructor
  · exact assigned
  · intro some
    rw [Config.walkNode] at some ⊢
    dsimp only at some ⊢
    rw [assigned, List.length_range]
    rw [assigned] at some
    cases buses : (registerBus config.walk node).bus with
    | zero =>
        rw [buses] at some
        exact absurd rfl some
    | succ last =>
        rw [Nat.add_sub_cancel, BitVec.ofNat_add]
        exact BitVec.add_sub_cancel _ _

theorem walkNode_inBounds_iff (config : Walked) (node : Node) (nodes : List Node) :
    (walkNode config node).walk.InBounds ∧ Fits (walkNode config node).walk.bus nodes ↔
      config.walk.InBounds ∧ Fits config.walk.bus (node :: nodes) := by
  cases node with
  | other => exact Iff.rfl
  | bus children =>
      rw [walkNode, registerBus, Fits]
      split
      · rename_i full
        rw [if_neg (not_lt.mpr full)]
      · rename_i open_
        have below := not_le.mp open_
        rw [if_pos below, registerChildren_inBounds_iff below, registerChildren_bus,
          Walk.inBounds_write_iff]
        constructor
        · rintro ⟨⟨⟨inBounds, _⟩, children⟩, rest⟩
          exact ⟨inBounds, children, rest⟩
        · rintro ⟨inBounds, children, rest⟩
          exact ⟨⟨⟨inBounds, below⟩, children⟩, rest⟩

theorem foldl_walkNode_safe_iff (document : List Node) (config : Walked)
    (numbered : config.Numbered) :
    (document.foldl walkNode config).Safe ↔
      config.walk.InBounds ∧ Fits config.walk.bus document := by
  induction document generalizing config with
  | nil =>
      constructor
      · exact fun safe => ⟨safe.inBounds, trivial⟩
      · rintro ⟨inBounds, _⟩
        refine ⟨inBounds, ?_, numbered.counted⟩
        change config.walk.assigned.Nodup
        rw [numbered.assigned]
        exact List.nodup_range
  | cons node document ih =>
      rw [List.foldl_cons, ih _ (numbered.walkNode node)]
      exact walkNode_inBounds_iff config node document

/-- The walk stays inside the arrays exactly for the documents whose drivers fit. -/
theorem safe_walkConfigXml_iff (document : List Node) :
    (walkConfigXml document).Safe ↔ Fits 0 document := by
  rw [walkConfigXml,
    foldl_walkNode_safe_iff document Walked.start ⟨rfl, fun some => absurd rfl some⟩]
  exact and_iff_right ⟨nofun, nofun⟩

/-- A loopback bus, which sets no number of its own. -/
def loopbackDriver : Driver :=
  { name := .loopback, allocated := true, sets := fun _ => false }

/-- An S88 bus whose refresh and numbers of contacts keep their defaults. -/
def s88Driver : Driver :=
  { name := .ddlS88, allocated := true, sets := fun _ => false }

/-- The S88 driver as the last of 18 bus elements takes the numbers 17 to 20. -/
theorem not_safe_s88_at_17 : ¬ ∀ document, (walkConfigXml document).Safe := by
  intro always
  have safe := always (.bus [.server] ::
    List.replicate 16 (.bus [.driver loopbackDriver]) ++ [.bus [.driver s88Driver]])
  exact absurd (safe.inBounds.assigned 20 (by decide)) (by decide)

end Srcpd.Config
