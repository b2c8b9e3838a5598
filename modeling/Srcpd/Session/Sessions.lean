import Srcpd.Memory.LinkedList
import Srcpd.Transition.Core

/-!
# The list of sessions

Every client gets a node of the session list when it connects, and a session
number when it says `GO`.  The node is taken out again by searching for the
session number, so that only a client that got one leaves the list.  The other
way out, for a client whose thread could not be created, removes the node through
a local copy of its address and leaves the list as it was.

`consistent_iff` is the exact condition under which the list, the counter and the
numbers stay right and the termination of all sessions comes to an end.
-/

namespace Srcpd.Session

open Srcpd.Memory Srcpd.Transition

/-! ## Nodes -/

/-- What a client has said it wants. -/
inductive SessionMode
  | smUndefined
  | smCommand
  | smInfo
  deriving DecidableEq, Repr

/-- `session_node_t` without its link, its thread and its pipe. -/
structure SessionNode where
  session : Nat
  socket : Int
  mode : SessionMode
  deriving DecidableEq, Repr

/-- `terminate_all_sessions`: not called, in its wait, woken, returned. -/
inductive Terminator
  | idle
  | waiting
  | woken
  | returned
  deriving DecidableEq, Repr

/-- The session list and the threads around it. -/
structure Sessions where
  links : Links
  nodes : Nat → SessionNode
  /-- What `malloc` returned and nobody freed. -/
  allocated : Nat → Bool
  /-- Number of nodes that were ever added. -/
  added : Nat
  lastsession : Nat
  runningsessions : Nat
  /-- The nodes of the live client threads, newest first. -/
  clients : List Nat
  /-- The session numbers, newest first. -/
  handedOut : List Nat
  terminator : Terminator

/-- `sessionid_t` is `unsigned long int`, the counter is `unsigned int`. -/
def sessionidWords : Nat := 2 ^ 64

/-- The number of values of an `unsigned int`. -/
def counterWords : Nat := 2 ^ 32

/-! ## Functions -/

/-- A node of the list written to. -/
def Sessions.setNode (sessions : Sessions) (addr : Nat) (node : SessionNode) : Sessions :=
  { sessions with nodes := Function.update sessions.nodes addr node }

/-- The memory of a node given back. -/
def Sessions.free (sessions : Sessions) (addr : Nat) : Sessions :=
  { sessions with allocated := Function.update sessions.allocated addr false }

/-- `create_anonymous_session`, with the address that `malloc` returns. -/
def createAnonymousSession (sessions : Sessions) (addr : Nat) (socket : Int) : Sessions :=
  { sessions with
    links := sessions.links.push addr
    nodes := Function.update sessions.nodes addr ⟨0, socket, .smUndefined⟩
    allocated := Function.update sessions.allocated addr true
    added := sessions.added + 1
    runningsessions := (sessions.runningsessions + 1) % counterWords }

/-- `runningsessions--`. -/
def Sessions.leave (sessions : Sessions) : Sessions :=
  { sessions with
    runningsessions := (sessions.runningsessions + counterWords - 1) % counterWords }

/-- `pthread_cond_signal(&session_list_cond)`. -/
def Terminator.signal : Terminator → Terminator
  | .waiting => .woken
  | terminator => terminator

/-- A thread that waits for the end of all sessions is woken. -/
def Sessions.signal (sessions : Sessions) : Sessions :=
  { sessions with terminator := sessions.terminator.signal }

/-- `destroy_anonymous_session`: the link that `list_remove` overwrites is the
parameter of the function. -/
def destroyAnonymousSession (sessions : Sessions) (addr : Nat) : Sessions :=
  (sessions.free addr).leave.signal

/-- `list_search_session`. -/
def Sessions.listSearchSession (sessions : Sessions) (sid : Nat) : Option Slot :=
  sessions.links.search (fun addr => (sessions.nodes addr).session == sid) (sessions.added + 1)
    .head

/-- `list_remove` with a link of the list. -/
def Sessions.listRemove (sessions : Sessions) (slot : Slot) : Option Sessions :=
  (sessions.links.read slot).map fun addr =>
    { sessions.free addr with links := sessions.links.unlink slot }

/-- `destroy_session`, which signals in any case. -/
def destroySession (sessions : Sessions) (sid : Nat) : Sessions :=
  match (sessions.listSearchSession sid).bind sessions.listRemove with
  | some removed => removed.leave.signal
  | none => sessions.signal

/-- `register_session`. -/
def registerSession (sessions : Sessions) (addr : Nat) : Sessions :=
  let sid := (sessions.lastsession + 1) % sessionidWords
  let node := sessions.nodes addr
  { sessions.setNode addr
      { node with
        session := sid
        mode := if node.mode = .smUndefined then .smCommand else node.mode } with
    lastsession := sid
    handedOut := sid :: sessions.handedOut }

/-- `end_client_thread`, as far as the list is concerned. -/
def endClientThread (sessions : Sessions) (addr : Nat) : Sessions :=
  let node := sessions.nodes addr
  let undefined := sessions.setNode addr { node with mode := .smUndefined }
  -- session finished handshake and has valid sid
  if node.mode ≠ .smUndefined ∧ node.session ≠ 0 then destroySession undefined node.session
  else undefined

/-! ## Steps -/

/-- What clients, the thread that accepts them and the terminating thread do. -/
inductive SessionAction
  | connect (addr : Nat) (socket : Int)
  /-- The thread for the client cannot be created. -/
  | connectFailed (addr : Nat) (socket : Int)
  | setMode (addr : Nat) (info : Bool)
  | go (addr : Nat)
  | disconnect (addr : Nat)
  | terminate
  | spurious
  | recheck

/-- The test of the wait loop in `terminate_all_sessions`. -/
def Sessions.await (sessions : Sessions) : Sessions :=
  { sessions with
    terminator := if sessions.runningsessions ≠ 0 then .waiting else .returned }

/-- One step of anybody. -/
def sessionStep : Step Sessions SessionAction
  | sessions, .connect addr socket =>
      if sessions.allocated addr = false then
        let created := createAnonymousSession sessions addr socket
        some { created with clients := addr :: sessions.clients }
      else none
  | sessions, .connectFailed addr socket =>
      if sessions.allocated addr = false then
        some (destroyAnonymousSession (createAnonymousSession sessions addr socket) addr)
      else none
  | sessions, .setMode addr info =>
      if addr ∈ sessions.clients ∧ (sessions.nodes addr).session = 0 then
        some (sessions.setNode addr
          { sessions.nodes addr with mode := if info then .smInfo else .smCommand })
      else none
  | sessions, .go addr =>
      if addr ∈ sessions.clients ∧ (sessions.nodes addr).session = 0 then
        some (registerSession sessions addr)
      else none
  | sessions, .disconnect addr =>
      if addr ∈ sessions.clients then
        some { endClientThread sessions addr with clients := sessions.clients.erase addr }
      else none
  | sessions, .terminate =>
      if sessions.terminator = .idle then
        if sessions.links.head = none then some { sessions with terminator := .returned }
        else some sessions.await
      else none
  | sessions, .spurious =>
      if sessions.terminator = .waiting then some { sessions with terminator := .woken } else none
  | sessions, .recheck => if sessions.terminator = .woken then some sessions.await else none

/-- The server after its start. -/
def noSessions (links : Nat → Option Nat) (nodes : Nat → SessionNode) : Sessions :=
  { links := ⟨none, links⟩
    nodes := nodes
    allocated := fun _ => false
    added := 0
    lastsession := 0
    runningsessions := 0
    clients := []
    handedOut := []
    terminator := .idle }

/-! ## What has to hold -/

/-- The list has one node for each live client and none that was freed, the
counter is its length, the session numbers grow, and with the last client the
termination of all sessions comes to an end. -/
structure Sessions.Consistent (sessions : Sessions) : Prop where
  nodes : ∃ addrs, Chain sessions.links addrs ∧ addrs.Nodup ∧ addrs.Perm sessions.clients ∧
    (∀ addr ∈ addrs, sessions.allocated addr = true) ∧
    sessions.runningsessions = addrs.length
  grows : sessions.handedOut.Pairwise (· > ·)
  positive : ∀ sid ∈ sessions.handedOut, 0 < sid
  returns : sessions.clients = [] → sessions.terminator ≠ .waiting

/-- Clients that leave said `GO`, their threads can be created, and the counters
do not overflow. -/
def LeavesRegistered (sessions : Sessions) : SessionAction → Prop
  | .connect _ _ => sessions.runningsessions + 1 < counterWords
  | .connectFailed _ _ => False
  | .go _ => sessions.lastsession + 1 < sessionidWords
  | .disconnect addr => (sessions.nodes addr).session ≠ 0
  | _ => True

/-! ## Invariant -/

/-- The list runs through the live clients, of which each has its own number. -/
structure Sessions.Inv (sessions : Sessions) : Prop where
  chain : Chain sessions.links sessions.clients
  nodup : sessions.clients.Nodup
  live : ∀ addr ∈ sessions.clients, sessions.allocated addr = true
  counter : sessions.runningsessions = sessions.clients.length
  small : sessions.clients.length < counterWords
  enough : sessions.clients.length ≤ sessions.added
  distinct : ∀ addr ∈ sessions.clients, ∀ other ∈ sessions.clients,
    (sessions.nodes addr).session = (sessions.nodes other).session →
      (sessions.nodes addr).session ≠ 0 → addr = other
  bounded : ∀ addr ∈ sessions.clients, (sessions.nodes addr).session ≤ sessions.lastsession
  moded : ∀ addr ∈ sessions.clients, (sessions.nodes addr).session ≠ 0 →
    (sessions.nodes addr).mode ≠ .smUndefined
  last : ∀ sid ∈ sessions.handedOut, sid ≤ sessions.lastsession
  grows : sessions.handedOut.Pairwise (· > ·)
  positive : ∀ sid ∈ sessions.handedOut, 0 < sid
  returns : sessions.clients = [] → sessions.terminator ≠ .waiting
  lastSmall : sessions.lastsession < sessionidWords

variable {sessions next : Sessions} {addr : Nat}

theorem Sessions.Inv.consistent (inv : sessions.Inv) : sessions.Consistent where
  nodes := ⟨sessions.clients, inv.chain, inv.nodup, List.Perm.refl _, inv.live, inv.counter⟩
  grows := inv.grows
  positive := inv.positive
  returns := inv.returns

theorem inv_noSessions (links : Nat → Option Nat) (nodes : Nat → SessionNode) :
    (noSessions links nodes).Inv := by
  constructor <;> simp [noSessions, Chain, ChainFrom, counterWords, sessionidWords]

/-- A fresh address belongs to no client. -/
theorem Sessions.Inv.not_mem (inv : sessions.Inv) (fresh : sessions.allocated addr = false) :
    addr ∉ sessions.clients := by
  intro mem
  rw [inv.live addr mem] at fresh
  cases fresh

theorem Sessions.Inv.connect (inv : sessions.Inv) (fresh : sessions.allocated addr = false)
    (room : sessions.runningsessions + 1 < counterWords) (socket : Int) :
    Sessions.Inv { createAnonymousSession sessions addr socket with
      clients := addr :: sessions.clients } := by
  have new := inv.not_mem fresh
  have others : ∀ other ∈ sessions.clients, other ≠ addr := by
    rintro other mem rfl
    exact new mem
  constructor
  · exact inv.chain.push new
  · exact List.nodup_cons.mpr ⟨new, inv.nodup⟩
  · intro other mem
    rcases List.mem_cons.mp mem with rfl | old
    · exact Function.update_self _ _ _
    · exact (Function.update_of_ne (others other old) _ _).trans (inv.live other old)
  · simp only [createAnonymousSession, List.length_cons]
    rw [Nat.mod_eq_of_lt room, inv.counter]
  · rw [List.length_cons, ← inv.counter]
    exact room
  · exact Nat.succ_le_succ inv.enough
  · intro first firstMem second secondMem same numbered
    simp only [createAnonymousSession] at same numbered
    rcases List.mem_cons.mp firstMem with rfl | firstOld
    · simp at numbered
    · rw [Function.update_of_ne (others first firstOld)] at same numbered
      rcases List.mem_cons.mp secondMem with rfl | secondOld
      · rw [Function.update_self] at same
        exact absurd same numbered
      · rw [Function.update_of_ne (others second secondOld)] at same
        exact inv.distinct first firstOld second secondOld same numbered
  · intro other mem
    simp only [createAnonymousSession]
    rcases List.mem_cons.mp mem with rfl | old
    · rw [Function.update_self]
      exact Nat.zero_le _
    · rw [Function.update_of_ne (others other old)]
      exact inv.bounded other old
  · intro other mem numbered
    simp only [createAnonymousSession] at numbered ⊢
    rcases List.mem_cons.mp mem with rfl | old
    · simp at numbered
    · rw [Function.update_of_ne (others other old)] at numbered ⊢
      exact inv.moded other old numbered
  · exact inv.last
  · exact inv.grows
  · exact inv.positive
  · intro empty
    cases empty
  · exact inv.lastSmall

/-- A node that keeps its number and gets a mode. -/
theorem Sessions.Inv.setMode (inv : sessions.Inv) {mode : SessionMode}
    (defined : mode ≠ .smUndefined) :
    (sessions.setNode addr { sessions.nodes addr with mode := mode }).Inv := by
  have number : ∀ other, ((sessions.setNode addr
      { sessions.nodes addr with mode := mode }).nodes other).session =
        (sessions.nodes other).session := by
    intro other
    by_cases same : other = addr
    · subst same
      simp [Sessions.setNode]
    · simp [Sessions.setNode, Function.update_of_ne same]
  constructor
  · exact inv.chain
  · exact inv.nodup
  · exact inv.live
  · exact inv.counter
  · exact inv.small
  · exact inv.enough
  · intro first firstMem second secondMem same numbered
    rw [number] at same numbered
    rw [number] at same
    exact inv.distinct first firstMem second secondMem same numbered
  · intro other mem
    rw [number]
    exact inv.bounded other mem
  · intro other mem numbered
    rw [number] at numbered
    by_cases same : other = addr
    · subst same
      simpa [Sessions.setNode] using defined
    · simpa [Sessions.setNode, Function.update_of_ne same] using inv.moded other mem numbered
  · exact inv.last
  · exact inv.grows
  · exact inv.positive
  · exact inv.returns
  · exact inv.lastSmall

theorem Sessions.Inv.go (inv : sessions.Inv)
    (room : sessions.lastsession + 1 < sessionidWords) : (registerSession sessions addr).Inv := by
  have sid : (sessions.lastsession + 1) % sessionidWords = sessions.lastsession + 1 :=
    Nat.mod_eq_of_lt room
  constructor
  · exact inv.chain
  · exact inv.nodup
  · exact inv.live
  · exact inv.counter
  · exact inv.small
  · exact inv.enough
  · intro first firstMem second secondMem same numbered
    simp only [registerSession, Sessions.setNode, sid] at same numbered
    by_cases firstNew : first = addr
    · by_cases secondNew : second = addr
      · exact firstNew.trans secondNew.symm
      · subst firstNew
        rw [Function.update_self, Function.update_of_ne secondNew] at same
        have old := inv.bounded second secondMem
        simp only at same
        omega
    · rw [Function.update_of_ne firstNew] at same numbered
      by_cases secondNew : second = addr
      · subst secondNew
        rw [Function.update_self] at same
        have old := inv.bounded first firstMem
        simp only at same
        omega
      · rw [Function.update_of_ne secondNew] at same
        exact inv.distinct first firstMem second secondMem same numbered
  · intro other mem
    simp only [registerSession, Sessions.setNode, sid]
    by_cases new : other = addr
    · subst new
      rw [Function.update_self]
    · rw [Function.update_of_ne new]
      exact (inv.bounded other mem).trans (Nat.le_succ _)
  · intro other mem numbered
    simp only [registerSession, Sessions.setNode, sid] at numbered ⊢
    by_cases new : other = addr
    · subst new
      rw [Function.update_self]
      by_cases undefined : (sessions.nodes other).mode = .smUndefined
      · simp [undefined]
      · simp [undefined]
    · rw [Function.update_of_ne new] at numbered ⊢
      exact inv.moded other mem numbered
  · intro other mem
    simp only [registerSession, Sessions.setNode, sid] at mem ⊢
    rcases List.mem_cons.mp mem with rfl | old
    · exact le_refl _
    · exact (inv.last other old).trans (Nat.le_succ _)
  · simp only [registerSession, Sessions.setNode, sid]
    exact List.pairwise_cons.mpr
      ⟨fun other mem => Nat.lt_succ_of_le (inv.last other mem), inv.grows⟩
  · intro other mem
    simp only [registerSession, Sessions.setNode, sid] at mem
    rcases List.mem_cons.mp mem with rfl | old
    · exact Nat.succ_pos _
    · exact inv.positive other old
  · exact inv.returns
  · simp only [registerSession, Sessions.setNode, sid]
    exact room

theorem Terminator.signal_ne_waiting (terminator : Terminator) :
    terminator.signal ≠ .waiting := by
  cases terminator <;> simp [Terminator.signal]

/-- What `destroy_session` does for a registered client: its node is the one that
is found, and it leaves the list. -/
theorem Sessions.Inv.destroySession (inv : sessions.Inv) (mem : addr ∈ sessions.clients)
    (numbered : (sessions.nodes addr).session ≠ 0) (node : SessionNode)
    (same : node.session = (sessions.nodes addr).session) :
    ∃ links, Chain links (sessions.clients.erase addr) ∧
      Session.destroySession (sessions.setNode addr node) (sessions.nodes addr).session =
        { (((sessions.setNode addr node).free addr).leave).signal with links := links } := by
  rcases List.append_of_mem mem with ⟨before, after, split⟩
  have nodup := inv.nodup
  rw [split] at nodup
  have notBefore : addr ∉ before := by
    intro early
    exact (List.nodup_append.mp nodup).2.2 addr early addr List.mem_cons_self rfl
  have number : ∀ other, ((sessions.setNode addr node).nodes other).session =
      (sessions.nodes other).session := by
    intro other
    by_cases here : other = addr
    · subst here
      simpa [Sessions.setNode] using same
    · simp [Sessions.setNode, Function.update_of_ne here]
  have chain := inv.chain
  rw [split] at chain
  have length : before.length < sessions.added + 1 := by
    have total := inv.enough
    rw [split, List.length_append, List.length_cons] at total
    omega
  have unwanted : ∀ other ∈ before, (((sessions.setNode addr node).nodes other).session ==
      (sessions.nodes addr).session) = false := by
    intro other otherMem
    rw [number, beq_eq_false_iff_ne]
    intro equal
    have member : other ∈ sessions.clients := by
      rw [split]
      exact List.mem_append_left _ otherMem
    have clash := inv.distinct other member addr mem equal (by rw [equal]; exact numbered)
    exact notBefore (clash ▸ otherMem)
  have found : (((sessions.setNode addr node).nodes addr).session ==
      (sessions.nodes addr).session) = true := by
    rw [number, beq_self_eq_true]
  rcases chain.unlink_search nodup unwanted found length with ⟨slot, searched, reads, unlinked⟩
  refine ⟨sessions.links.unlink slot, ?_, ?_⟩
  · rw [split, List.erase_append_right _ notBefore, List.erase_cons_head]
    exact unlinked
  · have search : (sessions.setNode addr node).listSearchSession (sessions.nodes addr).session =
        some slot := searched
    have removed : (sessions.setNode addr node).listRemove slot =
        some { (sessions.setNode addr node).free addr with
          links := sessions.links.unlink slot } := by
      rw [Sessions.listRemove,
        show (sessions.setNode addr node).links.read slot = some addr from reads]
      rfl
    rw [Session.destroySession, search, Option.bind_some, removed]
    rfl

theorem Sessions.Inv.disconnect (inv : sessions.Inv) (mem : addr ∈ sessions.clients)
    (numbered : (sessions.nodes addr).session ≠ 0) :
    Sessions.Inv { endClientThread sessions addr with
      clients := sessions.clients.erase addr } := by
  have defined := inv.moded addr mem numbered
  rcases inv.destroySession mem numbered { sessions.nodes addr with mode := .smUndefined } rfl with
    ⟨links, chain, destroyed⟩
  have ended : endClientThread sessions addr =
      { (((sessions.setNode addr { sessions.nodes addr with mode := .smUndefined }).free
        addr).leave).signal with links := links } := by
    unfold endClientThread
    rw [if_pos ⟨defined, numbered⟩]
    exact destroyed
  have others : ∀ other ∈ sessions.clients.erase addr,
      other ∈ sessions.clients ∧ other ≠ addr := by
    intro other left
    have split := (inv.nodup.mem_erase_iff).mp left
    exact ⟨split.2, split.1⟩
  have same : ∀ other ∈ sessions.clients.erase addr, Function.update sessions.nodes addr
      { sessions.nodes addr with mode := .smUndefined } other = sessions.nodes other :=
    fun other left => Function.update_of_ne (others other left).2 _ _
  have nonempty : 0 < sessions.clients.length := List.length_pos_of_mem mem
  have small := inv.small
  rw [ended]
  constructor
  · exact chain
  · exact inv.nodup.erase addr
  · intro other left
    exact (Function.update_of_ne (others other left).2 _ _).trans
      (inv.live other (others other left).1)
  · simp only [Sessions.leave, Sessions.signal, Sessions.free, Sessions.setNode]
    rw [List.length_erase_of_mem mem, inv.counter]
    have wraps : sessions.clients.length + counterWords - 1 =
        sessions.clients.length - 1 + counterWords := by omega
    rw [wraps, Nat.add_mod_right, Nat.mod_eq_of_lt (by omega)]
  · simp only
    rw [List.length_erase_of_mem mem]
    omega
  · simp only [Sessions.leave, Sessions.signal, Sessions.free, Sessions.setNode]
    rw [List.length_erase_of_mem mem]
    exact (Nat.sub_le _ _).trans inv.enough
  · intro first firstLeft second secondLeft equal firstNumbered
    simp only [Sessions.leave, Sessions.signal, Sessions.free, Sessions.setNode,
      same first firstLeft, same second secondLeft] at equal firstNumbered
    exact inv.distinct first (others first firstLeft).1 second (others second secondLeft).1 equal
      firstNumbered
  · intro other left
    simp only [Sessions.leave, Sessions.signal, Sessions.free, Sessions.setNode, same other left]
    exact inv.bounded other (others other left).1
  · intro other left otherNumbered
    simp only [Sessions.leave, Sessions.signal, Sessions.free, Sessions.setNode,
      same other left] at otherNumbered ⊢
    exact inv.moded other (others other left).1 otherNumbered
  · exact inv.last
  · exact inv.grows
  · exact inv.positive
  · intro _
    exact Terminator.signal_ne_waiting _
  · exact inv.lastSmall

/-- Steps that only move the terminating thread. -/
theorem Sessions.Inv.setTerminator (inv : sessions.Inv) {terminator : Terminator}
    (awake : sessions.clients = [] → terminator ≠ .waiting) :
    Sessions.Inv { sessions with terminator := terminator } :=
  ⟨inv.chain, inv.nodup, inv.live, inv.counter, inv.small, inv.enough, inv.distinct, inv.bounded,
    inv.moded, inv.last, inv.grows, inv.positive, awake, inv.lastSmall⟩

/-- The wait loop ends when nobody is left. -/
theorem Sessions.Inv.await (inv : sessions.Inv) : sessions.await.Inv := by
  apply inv.setTerminator
  intro empty
  rw [inv.counter, empty]
  simp

theorem Sessions.Inv.step {action : SessionAction} (inv : sessions.Inv)
    (registered : LeavesRegistered sessions action)
    (taken : sessionStep sessions action = some next) : next.Inv := by
  cases action with
  | connect addr socket =>
      simp only [sessionStep, Option.ite_none_right_eq_some, Option.some.injEq] at taken
      rcases taken with ⟨fresh, rfl⟩
      exact inv.connect fresh registered socket
  | connectFailed addr socket => exact registered.elim
  | setMode addr info =>
      simp only [sessionStep, Option.ite_none_right_eq_some, Option.some.injEq] at taken
      rcases taken with ⟨_, rfl⟩
      apply inv.setMode
      cases info <;> simp
  | go addr =>
      simp only [sessionStep, Option.ite_none_right_eq_some, Option.some.injEq] at taken
      rcases taken with ⟨_, rfl⟩
      exact inv.go registered
  | disconnect addr =>
      simp only [sessionStep, Option.ite_none_right_eq_some, Option.some.injEq] at taken
      rcases taken with ⟨mem, rfl⟩
      exact inv.disconnect mem registered
  | terminate =>
      simp only [sessionStep, Option.ite_none_right_eq_some] at taken
      rcases taken with ⟨_, taken⟩
      split at taken
      · cases taken
        exact inv.setTerminator (by simp)
      · cases taken
        exact inv.await
  | spurious =>
      simp only [sessionStep, Option.ite_none_right_eq_some, Option.some.injEq] at taken
      rcases taken with ⟨_, rfl⟩
      exact inv.setTerminator (by simp)
  | recheck =>
      simp only [sessionStep, Option.ite_none_right_eq_some, Option.some.injEq] at taken
      rcases taken with ⟨_, rfl⟩
      exact inv.await

/-! ## Exactness -/

/-- A client that leaves without a number leaves its node in the list. -/
theorem Sessions.Inv.anonymous (inv : sessions.Inv) (mem : addr ∈ sessions.clients)
    (anonymous : (sessions.nodes addr).session = 0) :
    ¬ Sessions.Consistent { endClientThread sessions addr with
      clients := sessions.clients.erase addr } := by
  have ended : endClientThread sessions addr =
      sessions.setNode addr { sessions.nodes addr with mode := .smUndefined } := by
    unfold endClientThread
    rw [if_neg fun both => both.2 anonymous]
  rw [ended]
  rintro ⟨⟨addrs, chain, _, perm, _⟩, _⟩
  have whole : addrs = sessions.clients := Chain.unique chain inv.chain
  have shorter := perm.length_eq
  simp only [whole, List.length_erase_of_mem mem] at shorter
  have nonempty : 0 < sessions.clients.length := List.length_pos_of_mem mem
  omega

theorem Sessions.Inv.broken {action : SessionAction} (inv : sessions.Inv)
    (violated : ¬ LeavesRegistered sessions action)
    (taken : sessionStep sessions action = some next) : ¬ next.Consistent := by
  cases action with
  | connect addr socket =>
      simp only [sessionStep, Option.ite_none_right_eq_some, Option.some.injEq] at taken
      rcases taken with ⟨fresh, rfl⟩
      have full : sessions.runningsessions + 1 = counterWords := by
        have small := inv.small
        have counter := inv.counter
        simp only [LeavesRegistered] at violated
        omega
      rintro ⟨⟨addrs, _, _, perm, _, counter⟩, _⟩
      simp only [createAnonymousSession, full, Nat.mod_self] at counter
      have length := perm.length_eq
      simp only [List.length_cons, ← counter] at length
      omega
  | connectFailed addr socket =>
      simp only [sessionStep, Option.ite_none_right_eq_some, Option.some.injEq] at taken
      rcases taken with ⟨fresh, rfl⟩
      rintro ⟨⟨addrs, chain, _, _, allocated, _⟩, _⟩
      have whole : addrs = addr :: sessions.clients :=
        Chain.unique chain (inv.chain.push (inv.not_mem fresh))
      have freed := allocated addr (by rw [whole]; exact List.mem_cons_self)
      simp [destroyAnonymousSession, Sessions.free, Sessions.leave, Sessions.signal] at freed
  | setMode addr info => exact absurd trivial violated
  | go addr =>
      simp only [sessionStep, Option.ite_none_right_eq_some, Option.some.injEq] at taken
      rcases taken with ⟨_, rfl⟩
      have full : sessions.lastsession + 1 = sessionidWords := by
        have small := inv.lastSmall
        simp only [LeavesRegistered] at violated
        omega
      rintro ⟨_, _, positive, _⟩
      have zero := positive 0 (by simp [registerSession, full])
      exact absurd zero (lt_irrefl 0)
  | disconnect addr =>
      simp only [sessionStep, Option.ite_none_right_eq_some, Option.some.injEq] at taken
      rcases taken with ⟨mem, rfl⟩
      exact inv.anonymous mem (not_not.mp violated)
  | terminate => exact absurd trivial violated
  | spurious => exact absurd trivial violated
  | recheck => exact absurd trivial violated

/-! ## Runs -/

/-- From the start of the server on, along every sequence of connects, handshakes
and disconnects, the session list is right precisely as long as every client that
leaves is registered, every thread can be created and no counter overflows. -/
theorem consistent_iff (links : Nat → Option Nat) (nodes : Nat → SessionNode)
    (actions : List SessionAction) :
    HoldsAlong sessionStep Sessions.Consistent (noSessions links nodes) actions ↔
      MeetsAlong sessionStep LeavesRegistered (noSessions links nodes) actions := by
  apply holdsAlong_iff_meetsAlong
  · exact fun sessions inv => Sessions.Inv.consistent inv
  · exact fun sessions action next inv registered taken => inv.step registered taken
  · exact fun sessions action next inv violated taken => inv.broken violated taken
  · exact inv_noSessions links nodes

/-- A client that disconnects before its `GO` stays in the list, and the
termination of all sessions waits for ever; a client whose thread cannot be created
leaves a freed node as the head of the list. -/
theorem anonymous_stays :
    (∃ last, run sessionStep (noSessions (fun _ => none) fun _ => ⟨0, 0, .smUndefined⟩)
        [.connect 1 7, .disconnect 1, .terminate] = some last ∧
      last.clients = [] ∧ Chain last.links [1] ∧ last.runningsessions = 1 ∧
      last.terminator = .waiting ∧ ¬ last.Consistent) ∧
    (∃ last, run sessionStep (noSessions (fun _ => none) fun _ => ⟨0, 0, .smUndefined⟩)
        [.connectFailed 1 7] = some last ∧
      last.links.head = some 1 ∧ last.allocated 1 = false ∧ last.runningsessions = 0 ∧
      ¬ last.Consistent) := by
  constructor
  · refine ⟨_, rfl, rfl, ⟨rfl, rfl⟩, rfl, rfl, ?_⟩
    intro consistent
    exact consistent.returns rfl rfl
  · refine ⟨_, rfl, rfl, rfl, rfl, ?_⟩
    rintro ⟨⟨addrs, chain, _, perm, _⟩, _⟩
    have empty : addrs = [] := perm.eq_nil
    rw [empty] at chain
    cases chain

end Srcpd.Session
