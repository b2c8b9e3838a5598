import Srcpd.Driver.Terminate

/-!
# After the termination of a locomotive

`cacheTermGL` clears the record of a locomotive, but commands for it may still be
queued or in the hands of the driver.  `cacheSetGL` tests the record for the value
2 of a termination, which only a local copy ever gets, so that a late call of the
driver fills the cleared record and sends whatever its message buffer contains.

`staysTerminated_iff` is the exact condition under which a terminated locomotive
stays so until its next `INIT` or `SET`.
-/

namespace Srcpd.Driver

open Srcpd.Command Srcpd.Queue Srcpd.Transition

/-! ## Messages -/

/-- The INFO messages about a locomotive; `garbage` is the uninitialised buffer
that `cacheInfoGL` leaves without a message. -/
inductive GlInfo
  | info
  | description
  | termination
  | garbage
  deriving DecidableEq, Repr

/-- What `cacheSetGL` sends. -/
def cacheSetGLInfo (gl : Gl) (addr : Int) : List (Int × GlInfo) :=
  if gl.isValid addr then
    [(addr,
      if (gl.glstate addr).state = 2 then .termination
      else if gl.isInitialized addr then .info
      else .garbage)]
  else []

/-- What the default init in `enqueueGL` sends. -/
def enqueueGLInfo (driver : GlDriver) (gl : Gl) (queue : Log GlState) (addr : Int) :
    List (Int × GlInfo) :=
  if gl.isValid addr ∧ gl.isInitialized addr = false ∧
      (cacheInitGL driver gl queue addr 'P' 1 14 1).1 = .ok then
    [(addr, .description)]
  else []

/-- What the driver and the terminations send in a step. -/
def infos (driver : GlDriver) (bus : Bus) : Action → List (Int × GlInfo)
  | .report addr _ => cacheSetGLInfo bus.gl addr
  | .store =>
      match bus.handler with
      | .sent addr (some _) => cacheSetGLInfo bus.gl addr
      | _ => []
  | .termBrake session =>
      match bus.term session with
      | .begun addr gltmp =>
          if gltmp.speed ≠ 0 then enqueueGLInfo driver bus.gl bus.queue addr else []
      | _ => []
  | .termStore session =>
      match bus.term session with
      | .braked addr _ => cacheSetGLInfo bus.gl addr
      | _ => []
  | _ => []

/-! ## What was sent since -/

/-- For each locomotive that is terminated and got no `INIT` or `SET` since, what
was sent about it behind the termination. -/
abbrev Since := Int → Option (List GlInfo)

/-- What was announced behind a termination. -/
def Since.say (since : Since) (sent : List (Int × GlInfo)) : Since := fun addr =>
  (since addr).map fun spoken =>
    spoken ++ (sent.filter fun message => message.1 = addr).map Prod.snd

/-- Another init or command of a session ends the watch of an address, and a termination
begins it. -/
def Since.note (driver : GlDriver) (since : Since) (bus : Bus) : Action → Since
  | .init addr _ _ _ _ => Function.update since addr none
  | .enqueue command => Function.update since command.addr none
  | .termClear session =>
      match bus.term session with
      | .stored addr =>
          Function.update since addr
            (some ((since addr).elim [] fun spoken => spoken ++ [.termination]))
      | _ => since
  | action => since.say (infos driver bus action)

/-- A step with the watch of what is announced. -/
def watchedStep (device : Device) (driver : GlDriver) : Step (Bus × Since) Action :=
  fun watched action =>
    (step device driver watched.1 action).map fun next =>
      (next, watched.2.note driver watched.1 action)

/-- A cleared record: not initialised, speed, functions and speed steps zero. -/
structure Gl.Cleared (gl : Gl) (addr : Int) : Prop where
  dead : gl.isInitialized addr = false
  speed : (gl.glstate addr).speed = 0
  funcs : (gl.glstate addr).funcs = 0
  nFs : (gl.glstate addr).nFs = 0

/-- A terminated locomotive has a cleared record, and nothing but terminations was
sent about it. -/
def StaysTerminated (watched : Bus × Since) : Prop :=
  ∀ addr spoken, watched.2 addr = some spoken →
    Gl.Cleared watched.1.gl addr ∧ ∀ message ∈ spoken, message = .termination

/-- No `cacheSetGL` for a terminated locomotive, and no second termination that
initialises it for its stop command. -/
def Undisturbed (driver : GlDriver) (watched : Bus × Since) : Action → Prop
  | .report addr _ => watched.2 addr = none
  | .store => ∀ addr l, watched.1.handler = .sent addr (some l) → watched.2 addr = none
  | .termStore session =>
      ∀ addr gltmp, watched.1.term session = .braked addr gltmp → watched.2 addr = none
  | .termBrake session =>
      ∀ addr gltmp, watched.1.term session = .begun addr gltmp → gltmp.speed ≠ 0 →
        watched.2 addr = none ∨
          (cacheInitGL driver watched.1.gl watched.1.queue addr 'P' 1 14 1).1 ≠ .ok
  | _ => True

/-! ## What a step touches -/

theorem cacheInitGL_of_ne (driver : GlDriver) (gl : Gl) (queue : Log GlState)
    {addr other : Int} (different : other ≠ addr) (protocol : Char)
    (protoversion nFs nFunc : Int) :
    (cacheInitGL driver gl queue addr protocol protoversion nFs nFunc).2.1.glstate other =
      gl.glstate other := by
  rcases cacheInitGL_cases driver gl queue addr protocol protoversion nFs nFunc with
    ⟨-, -, -, result⟩ | ⟨-, -, unchanged⟩
  · rw [result]
    exact Gl.setState_of_ne gl different _
  · rw [unchanged]

theorem enqueueGL_gl (driver : GlDriver) (gl : Gl) (queue : Log GlState) (command : GlCommand) :
    (enqueueGL driver gl queue command).2.1 = gl ∨
      (gl.isInitialized command.addr = false ∧ (enqueueGL driver gl queue command).2.1 =
        (cacheInitGL driver gl queue command.addr 'P' 1 14 1).2.1) := by
  unfold enqueueGL
  split
  · dsimp only
    split
    · exact .inl rfl
    · rename_i dead
      exact .inr ⟨Bool.eq_false_iff.mpr dead, rfl⟩
  · exact .inl rfl

theorem enqueueGL_of_ne (driver : GlDriver) (gl : Gl) (queue : Log GlState)
    (command : GlCommand) {other : Int} (different : other ≠ command.addr) :
    (enqueueGL driver gl queue command).2.1.glstate other = gl.glstate other := by
  rcases enqueueGL_gl driver gl queue command with same | ⟨_, initialised⟩
  · rw [same]
  · rw [initialised]
    exact cacheInitGL_of_ne driver gl queue different _ _ _ _

theorem enqueueGL_isValid (driver : GlDriver) (gl : Gl) (queue : Log GlState)
    (command : GlCommand) (other : Int) :
    (enqueueGL driver gl queue command).2.1.isValid other = gl.isValid other := by
  rcases enqueueGL_gl driver gl queue command with same | ⟨_, initialised⟩
  · rw [same]
  · rw [initialised]
    exact cacheInitGL_isValid driver gl queue _ _ _ _ _ other

/-! ## The invariant -/

/-- The locomotive that a termination is about. -/
def Termination.address : Termination → Option Int
  | .idle => none
  | .begun addr _ => some addr
  | .braked addr _ => some addr
  | .stored addr => some addr

/-- What terminates and what is terminated has a valid address. -/
structure TermInv (bus : Bus) (since : Since) : Prop where
  stays : StaysTerminated (bus, since)
  valid : ∀ addr, since addr ≠ none → bus.gl.isValid addr = true
  terms : ∀ session addr, (bus.term session).address = some addr → bus.gl.isValid addr = true
  dead : ∀ addr, since addr ≠ none → (bus.gl.glstate addr).state = 0

variable {device : Device} {driver : GlDriver} {bus next : Bus} {since since' : Since}

theorem Gl.Cleared.congr {gl gl' : Gl} {addr : Int} (cleared : Gl.Cleared gl addr)
    (valid : gl'.isValid addr = gl.isValid addr) (record : gl'.glstate addr = gl.glstate addr) :
    Gl.Cleared gl' addr where
  dead := by
    rw [Gl.isInitialized, valid, record]
    exact cleared.dead
  speed := by
    rw [record]
    exact cleared.speed
  funcs := by
    rw [record]
    exact cleared.funcs
  nFs := by
    rw [record]
    exact cleared.nFs

/-- A step that leaves the records of terminated locomotives alone and says nothing
about them. -/
theorem TermInv.frame (inv : TermInv bus since)
    (isValid : ∀ addr, next.gl.isValid addr = bus.gl.isValid addr)
    (kept : ∀ addr spoken, since' addr = some spoken →
      since addr = some spoken ∧ next.gl.glstate addr = bus.gl.glstate addr)
    (terms : ∀ session addr, (next.term session).address = some addr →
      bus.gl.isValid addr = true) : TermInv next since' where
  stays := by
    intro addr spoken terminated
    rcases kept addr spoken terminated with ⟨before, record⟩
    rcases inv.stays addr spoken before with ⟨cleared, silent⟩
    exact ⟨cleared.congr (isValid addr) record, silent⟩
  valid := by
    intro addr terminated
    rcases Option.ne_none_iff_exists'.mp terminated with ⟨spoken, terminated⟩
    rw [isValid]
    apply inv.valid
    rw [(kept addr spoken terminated).1]
    simp
  terms := by
    intro session addr address
    rw [isValid]
    exact terms session addr address
  dead := by
    intro addr terminated
    rcases Option.ne_none_iff_exists'.mp terminated with ⟨spoken, terminated⟩
    rcases kept addr spoken terminated with ⟨before, record⟩
    rw [record]
    apply inv.dead
    rw [before]
    simp

theorem Since.say_nil (since : Since) : since.say [] = since := by
  funext addr
  simp [Since.say]

/-- What is said about a locomotive that is not terminated is not noted. -/
theorem Since.say_of_none {sent : List (Int × GlInfo)} {touched : Int}
    (about : ∀ message ∈ sent, message.1 = touched) (alive : since touched = none) :
    since.say sent = since := by
  funext addr
  by_cases here : addr = touched
  · subst here
    simp [Since.say, alive]
  · have silent : sent.filter (fun message => message.1 = addr) = [] := by
      rw [List.filter_eq_nil_iff]
      intro message mem
      rw [about message mem]
      simpa using Ne.symm here
    simp [Since.say, silent]

theorem cacheSetGLInfo_about (gl : Gl) (addr : Int) :
    ∀ message ∈ cacheSetGLInfo gl addr, message.1 = addr := by
  intro message mem
  unfold cacheSetGLInfo at mem
  split at mem
  · rw [List.mem_singleton.mp mem]
  · cases mem

theorem enqueueGLInfo_about (driver : GlDriver) (gl : Gl) (queue : Log GlState) (addr : Int) :
    ∀ message ∈ enqueueGLInfo driver gl queue addr, message.1 = addr := by
  intro message mem
  unfold enqueueGLInfo at mem
  split at mem
  · rw [List.mem_singleton.mp mem]
  · cases mem

/-- A session moves on with an address that it has or that is valid. -/
theorem TermInv.setTerm_terms (inv : TermInv bus since) {session : Nat} {term : Termination}
    (valid : ∀ addr, term.address = some addr → bus.gl.isValid addr = true) :
    ∀ other addr, (Function.update bus.term session term other).address = some addr →
      bus.gl.isValid addr = true := by
  intro other addr address
  by_cases here : other = session
  · subst here
    rw [Function.update_self] at address
    exact valid addr address
  · rw [Function.update_of_ne here] at address
    exact inv.terms other addr address

/-- A call of `cacheSetGL` for a locomotive that is not terminated. -/
theorem TermInv.cacheSetGL (inv : TermInv bus since) {addr : Int} (alive : since addr = none)
    (l : GlState) (glEq : next.gl = (Command.cacheSetGL bus.gl addr l).2)
    (terms : ∀ session other, (next.term session).address = some other →
      bus.gl.isValid other = true) :
    TermInv next (since.say (cacheSetGLInfo bus.gl addr)) := by
  rw [Since.say_of_none (cacheSetGLInfo_about bus.gl addr) alive]
  apply inv.frame
  · intro other
    rw [glEq, cacheSetGL_isValid]
  · intro other spoken terminated
    refine ⟨terminated, ?_⟩
    have different : other ≠ addr := by
      rintro rfl
      rw [alive] at terminated
      cases terminated
    rw [glEq, cacheSetGL_of_ne _ different]
  · exact terms

/-- The clear of a termination. -/
theorem TermInv.clear (inv : TermInv bus since) {session : Nat} {addr : Int}
    (stored : bus.term session = .stored addr) :
    TermInv { bus.setTerm session .idle with gl := bus.gl.setState addr .zero }
      (Function.update since addr
        (some ((since addr).elim [] fun spoken => spoken ++ [.termination]))) where
  stays := by
    intro other spoken terminated
    simp only at terminated ⊢
    by_cases here : other = addr
    · subst here
      rw [Function.update_self] at terminated
      cases terminated
      constructor
      · constructor <;> simp [Gl.isInitialized, Gl.setState, GlState.zero]
      · intro message mem
        cases before : since other with
        | none => simp [before] at mem
        | some spoken =>
            rw [before] at mem
            rcases List.mem_append.mp mem with old | new
            · exact (inv.stays other spoken before).2 message old
            · exact List.mem_singleton.mp new
    · rw [Function.update_of_ne here] at terminated
      rcases inv.stays other spoken terminated with ⟨cleared, silent⟩
      exact ⟨cleared.congr rfl (Gl.setState_of_ne _ here _), silent⟩
  valid := by
    intro other terminated
    simp only [Gl.isValid_setState]
    by_cases here : other = addr
    · subst here
      exact inv.terms session other (by rw [stored]; rfl)
    · rw [Function.update_of_ne here] at terminated
      exact inv.valid other terminated
  terms := inv.setTerm_terms (by simp [Termination.address])
  dead := by
    intro other terminated
    by_cases here : other = addr
    · subst here
      simp [Gl.setState, GlState.zero]
    · rw [Function.update_of_ne here] at terminated
      simp only
      rw [Gl.setState_of_ne _ here]
      exact inv.dead other terminated

/-- The stop command of a termination, which initialises a cleared record if the
driver lets it. -/
theorem TermInv.brake (inv : TermInv bus since) {session : Nat} {addr : Int} {gltmp : GlState}
    (begun : bus.term session = .begun addr gltmp)
    (undisturbed : gltmp.speed ≠ 0 → since addr = none ∨
      (cacheInitGL driver bus.gl bus.queue addr 'P' 1 14 1).1 ≠ .ok) :
    TermInv (cacheTermGLBrake driver bus session addr gltmp)
      (since.say (if gltmp.speed ≠ 0 then enqueueGLInfo driver bus.gl bus.queue addr else [])) := by
  have valid : bus.gl.isValid addr = true := inv.terms session addr (by rw [begun]; rfl)
  unfold cacheTermGLBrake
  by_cases running : gltmp.speed ≠ 0
  · rw [if_pos running, if_pos running]
    dsimp only
    have silent : since.say (enqueueGLInfo driver bus.gl bus.queue addr) = since := by
      rcases undisturbed running with alive | refused
      · exact Since.say_of_none (enqueueGLInfo_about driver bus.gl bus.queue addr) alive
      · rw [enqueueGLInfo, if_neg fun all => refused all.2.2]
        exact Since.say_nil since
    rw [silent]
    apply inv.frame
    · intro other
      exact enqueueGL_isValid _ _ _ _ other
    · intro other spoken terminated
      refine ⟨terminated, ?_⟩
      by_cases here : other = addr
      · subst here
        rcases undisturbed running with alive | refused
        · rw [alive] at terminated
          cases terminated
        · rcases enqueueGL_gl driver bus.gl bus.queue
            ⟨other, 2, 0, gltmp.nFs, gltmp.funcs⟩ with same | ⟨_, initialised⟩
          · exact congrArg (fun gl : Gl => gl.glstate other) same
          · rw [cacheInitGL_refused refused] at initialised
            exact congrArg (fun gl : Gl => gl.glstate other) initialised
      · exact enqueueGL_of_ne driver bus.gl bus.queue _ here
    · apply inv.setTerm_terms
      intro other address
      cases address
      exact valid
  · rw [if_neg running, if_neg running, Since.say_nil]
    apply inv.frame
    · exact fun _ => rfl
    · exact fun _ _ terminated => ⟨terminated, rfl⟩
    · apply inv.setTerm_terms
      intro other address
      cases address
      exact valid

/-- A step without messages that changes no record. -/
theorem TermInv.silent (inv : TermInv bus since) (isValid : ∀ addr, next.gl.isValid addr =
    bus.gl.isValid addr) (records : next.gl.glstate = bus.gl.glstate)
    (terms : ∀ session addr, (next.term session).address = some addr →
      bus.gl.isValid addr = true) : TermInv next (since.say []) := by
  rw [Since.say_nil]
  exact inv.frame isValid (fun _ _ terminated => ⟨terminated, by rw [records]⟩) terms

theorem TermInv.step {action : Action} (inv : TermInv bus since)
    (undisturbed : Undisturbed driver (bus, since) action)
    (taken : Driver.step device driver bus action = some next) :
    TermInv next (since.note driver bus action) := by
  cases action with
  | tick clock =>
      cases taken
      exact inv.silent (fun _ => rfl) rfl inv.terms
  | enqueue command =>
      cases taken
      apply inv.frame
      · exact fun other => enqueueGL_isValid driver bus.gl bus.queue command other
      · intro other spoken terminated
        have different : other ≠ command.addr := by
          rintro rfl
          simp [Since.note] at terminated
        simp only [Since.note, Function.update_of_ne different] at terminated
        exact ⟨terminated, enqueueGL_of_ne driver bus.gl bus.queue command different⟩
      · exact inv.terms
  | init addr protocol protoversion nFs nFunc =>
      cases taken
      apply inv.frame
      · exact fun other => cacheInitGL_isValid driver bus.gl bus.queue addr _ _ _ _ other
      · intro other spoken terminated
        have different : other ≠ addr := by
          rintro rfl
          simp [Since.note] at terminated
        simp only [Since.note, Function.update_of_ne different] at terminated
        exact ⟨terminated, cacheInitGL_of_ne driver bus.gl bus.queue different _ _ _ _⟩
      · exact inv.terms
  | report addr l =>
      simp only [Driver.step] at taken
      split at taken
      · cases taken
        exact inv.cacheSetGL undisturbed l rfl inv.terms
      · cases taken
  | slotData slot addr =>
      simp only [Driver.step] at taken
      split at taken
      · cases taken
        exact inv.silent (fun _ => rfl) rfl inv.terms
      · cases taken
  | termBegin session addr =>
      simp only [Driver.step] at taken
      split at taken
      · rename_i gltmp _ recorded
        cases taken
        apply inv.silent
        · exact fun _ => rfl
        · rfl
        apply inv.setTerm_terms
        intro other address
        cases address
        unfold cacheGetGL at recorded
        split at recorded
        · rename_i alive
          exact (Gl.isInitialized_iff.mp alive).1
        · cases recorded
      · cases taken
        exact inv.silent (fun _ => rfl) rfl inv.terms
      · cases taken
  | termBrake session =>
      simp only [Driver.step] at taken
      split at taken
      · rename_i addr gltmp begun
        cases taken
        have note : since.note driver bus (.termBrake session) = since.say
            (if gltmp.speed ≠ 0 then enqueueGLInfo driver bus.gl bus.queue addr else []) := by
          simp only [Since.note, infos, begun]
        rw [note]
        exact inv.brake begun (undisturbed addr gltmp begun)
      · cases taken
  | termStore session =>
      simp only [Driver.step] at taken
      split at taken
      · rename_i addr gltmp braked
        cases taken
        have note : since.note driver bus (.termStore session) =
            since.say (cacheSetGLInfo bus.gl addr) := by
          simp only [Since.note, infos, braked]
        rw [note]
        apply inv.cacheSetGL (undisturbed addr gltmp braked) gltmp rfl
        apply inv.setTerm_terms
        intro other address
        cases address
        exact inv.terms session addr (by rw [braked]; rfl)
      · cases taken
  | termClear session =>
      simp only [Driver.step] at taken
      split at taken
      · rename_i addr stored
        cases taken
        have note : since.note driver bus (.termClear session) = Function.update since addr
            (some ((since addr).elim [] fun spoken => spoken ++ [.termination])) := by
          simp only [Since.note, stored]
        rw [note]
        exact inv.clear stored
      · cases taken
  | dequeue =>
      simp only [Driver.step] at taken
      split at taken
      · cases taken
        exact inv.silent (fun _ => rfl) rfl inv.terms
      · cases taken
  | read garbage accepted =>
      simp only [Driver.step] at taken
      split at taken
      · rcases Option.map_eq_some_iff.mp taken with ⟨handled, _, rfl⟩
        exact inv.silent (fun _ => rfl) rfl inv.terms
      · cases taken
  | send =>
      simp only [Driver.step] at taken
      split at taken
      · cases taken
        exact inv.silent (fun _ => rfl) rfl inv.terms
      · cases taken
  | store =>
      simp only [Driver.step] at taken
      split at taken
      · rename_i addr sent
        cases taken
        have note : since.note driver bus .store = since.say [] := by
          simp only [Since.note, infos, sent]
        rw [note]
        exact inv.silent (fun _ => rfl) rfl inv.terms
      · rename_i addr l sent
        cases taken
        have note : since.note driver bus .store = since.say (cacheSetGLInfo bus.gl addr) := by
          simp only [Since.note, infos, sent]
        rw [note]
        exact inv.cacheSetGL (undisturbed addr l sent) l rfl inv.terms
      · cases taken

/-! ## Exactness -/

/-- A call of `cacheSetGL` for a terminated locomotive sends something. -/
theorem TermInv.speaks (inv : TermInv bus since) {addr : Int} {spoken : List GlInfo}
    (terminated : since addr = some spoken) :
    ¬ StaysTerminated (next, since.say (cacheSetGLInfo bus.gl addr)) := by
  intro stays
  have valid : bus.gl.isValid addr = true := inv.valid addr (by simp [terminated])
  have alone : cacheSetGLInfo bus.gl addr = [(addr, .garbage)] := by
    rw [cacheSetGLInfo, if_pos valid, if_neg (by rw [inv.dead addr (by simp [terminated])]; decide),
      (inv.stays addr spoken terminated).1.dead]
    rfl
  have noted : since.say (cacheSetGLInfo bus.gl addr) addr = some (spoken ++ [.garbage]) := by
    simp [Since.say, terminated, alone]
  have clean := (stays addr _ noted).2 .garbage (by simp)
  cases clean

theorem TermInv.broken {action : Action} (inv : TermInv bus since)
    (disturbed : ¬ Undisturbed driver (bus, since) action)
    (taken : Driver.step device driver bus action = some next) :
    ¬ StaysTerminated (next, since.note driver bus action) := by
  cases action with
  | report addr l =>
      rcases Option.ne_none_iff_exists'.mp disturbed with ⟨spoken, terminated⟩
      exact inv.speaks terminated
  | store =>
      simp only [Undisturbed, not_forall] at disturbed
      rcases disturbed with ⟨addr, l, sent, terminated⟩
      rcases Option.ne_none_iff_exists'.mp terminated with ⟨spoken, terminated⟩
      have note : since.note driver bus .store = since.say (cacheSetGLInfo bus.gl addr) := by
        simp only [Since.note, infos, sent]
      rw [note]
      exact inv.speaks terminated
  | termStore session =>
      simp only [Undisturbed, not_forall] at disturbed
      rcases disturbed with ⟨addr, gltmp, braked, terminated⟩
      rcases Option.ne_none_iff_exists'.mp terminated with ⟨spoken, terminated⟩
      have note : since.note driver bus (.termStore session) =
          since.say (cacheSetGLInfo bus.gl addr) := by
        simp only [Since.note, infos, braked]
      rw [note]
      exact inv.speaks terminated
  | termBrake session =>
      simp only [Undisturbed, not_forall, not_or, not_not] at disturbed
      rcases disturbed with ⟨addr, gltmp, begun, running, terminated, accepted⟩
      rcases Option.ne_none_iff_exists'.mp terminated with ⟨spoken, terminated⟩
      have valid : bus.gl.isValid addr = true := inv.valid addr (by simp [terminated])
      have dead := (inv.stays addr spoken terminated).1.dead
      have sent : enqueueGLInfo driver bus.gl bus.queue addr = [(addr, .description)] :=
        if_pos ⟨valid, dead, accepted⟩
      have noted : since.note driver bus (.termBrake session) addr =
          some (spoken ++ [.description]) := by
        simp only [Since.note, infos, begun, if_pos running, sent]
        simp [Since.say, terminated]
      intro stays
      have clean := (stays addr _ noted).2 .description (by simp)
      cases clean
  | _ => exact absurd trivial disturbed

/-- In every interleaving of terminating sessions, other sessions and the driver,
each locomotive stays terminated until its next `INIT` or `SET` precisely when no
late command or report for it comes from the driver and no second termination
initialises it. -/
theorem staysTerminated_iff (device : Device) (driver : GlDriver) (bus : Bus)
    (idle : ∀ session, bus.term session = .idle) (actions : List Action) :
    HoldsAlong (watchedStep device driver) StaysTerminated (bus, fun _ => none) actions ↔
      MeetsAlong (watchedStep device driver) (Undisturbed driver) (bus, fun _ => none)
        actions := by
  have sound (watched : Bus × Since) (inv : TermInv watched.1 watched.2) :
      StaysTerminated watched := inv.stays
  apply holdsAlong_iff_meetsAlong sound
  · intro watched action next inv undisturbed executed
    rcases Option.map_eq_some_iff.mp executed with ⟨after, taken, rfl⟩
    exact inv.step undisturbed taken
  · intro watched action next inv disturbed executed
    rcases Option.map_eq_some_iff.mp executed with ⟨after, taken, rfl⟩
    exact inv.broken disturbed taken
  · constructor
    · intro addr spoken terminated
      cases terminated
    · exact fun addr terminated => absurd rfl terminated
    · intro session addr address
      rw [idle session] at address
      cases address
    · exact fun addr terminated => absurd rfl terminated

/-- A command is queued when the locomotive is terminated, and processed then. -/
def lateCommand : List Action :=
  [.enqueue ⟨3, 1, 70, 126, 0⟩, .termBegin 0 3, .termBrake 0, .termStore 0, .termClear 0,
    .dequeue, .read .zero true, .send, .store]

theorem staysTerminated_iff_late :
    (∀ session, runningBus.term session = .idle) ∧
      (HoldsAlong (watchedStep .loconet ⟨['P'], none⟩) StaysTerminated
          (runningBus, fun _ => none) lateCommand ↔
        MeetsAlong (watchedStep .loconet ⟨['P'], none⟩) (Undisturbed ⟨['P'], none⟩)
          (runningBus, fun _ => none) lateCommand) :=
  ⟨fun _ => rfl, staysTerminated_iff .loconet ⟨['P'], none⟩ runningBus (fun _ => rfl) lateCommand⟩

/-- The cleared record runs with speed 70 again, and the buffer is sent. -/
theorem lateCommand_fills :
    ∃ last, run (watchedStep .loconet ⟨['P'], none⟩) (runningBus, fun _ => none) lateCommand =
        some last ∧
      (last.1.gl.glstate 3).speed = 70 ∧ last.2 3 = some [.garbage] ∧ ¬ StaysTerminated last := by
  refine ⟨_, rfl, by decide, by decide, ?_⟩
  intro stays
  have clean := (stays 3 [.garbage] (by decide)).2 .garbage List.mem_cons_self
  cases clean

end Srcpd.Driver
