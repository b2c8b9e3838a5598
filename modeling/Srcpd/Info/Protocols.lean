import Srcpd.Info.Announce

/-!
# Printable protocols

The protocol of a decoder comes from a command line, is compared with the protocols
of the bus and may be changed by the driver.  Whatever is initialised has a printable
protocol, in every state that operations lead to.
-/

namespace Srcpd.Info

open Srcpd.Command Srcpd.Feedback Srcpd.Queue Srcpd.Time Srcpd.Transition

/-- The protocols of all initialised locomotives are printable. -/
def GlPrintable (gl : Gl) : Prop :=
  ∀ addr, gl.isInitialized addr = true → Printable (gl.glstate addr).protocol

/-- The protocol of an accessory is printable if it has one. -/
def GaDevice.HasPrintable (device : GaDevice) : Prop :=
  device.isInitialized = true → Printable device.protocol

/-- Whatever is initialised has a printable protocol. -/
structure ProtocolsPrintable (tables : Tables) : Prop where
  gl : ∀ bus, GlPrintable (tables.gl bus)
  ga : ∀ bus addr, ((tables.ga bus).gastate addr).HasPrintable

section Tables

variable {drivers : Drivers} {tables next : Tables} {texts : List Announcement} {now bus : Nat}
  {gl : Gl} {addr : Int} {state : GlState} {device : GaDevice} {queue : Log GlState}

theorem GlPrintable.setState (printable : GlPrintable gl)
    (new : state.state = 1 → Printable state.protocol) : GlPrintable (gl.setState addr state) := by
  intro other initialized
  rw [Gl.isInitialized_iff, Gl.isValid_setState] at initialized
  obtain ⟨valid, living⟩ := initialized
  by_cases same : other = addr
  · subst same
    simp only [Gl.setState, Function.update_self] at living ⊢
    exact new living
  · simp only [Gl.setState, Function.update_of_ne same] at living ⊢
    apply printable
    exact Gl.isInitialized_iff.mpr ⟨valid, living⟩

theorem GlPrintable.cacheInitGL {protocol : Char} {protoversion nFs nFunc : Int}
    (printable : GlPrintable gl) :
    GlPrintable (Command.cacheInitGL (drivers.gl bus) gl queue addr protocol protoversion nFs
      nFunc).2.1 := by
  rcases Command.cacheInitGL_cases (drivers.gl bus) gl queue addr protocol protoversion nFs nFunc
    with ⟨-, supported, -, result⟩ | ⟨-, -, unchanged⟩
  · rw [result]
    exact printable.setState fun _ => printable_initGl supported rfl
  · rw [unchanged]
    exact printable

theorem GlPrintable.enqueueGL {command : GlCommand} (printable : GlPrintable gl) :
    GlPrintable (Command.enqueueGL (drivers.gl bus) gl queue command).2.1 := by
  rw [Command.enqueueGL]
  split
  · dsimp only
    split
    · exact printable
    · exact printable.cacheInitGL
  · exact printable

theorem GlPrintable.cacheSetGL {l : GlState} (printable : GlPrintable gl) :
    GlPrintable (Command.cacheSetGL gl addr l).2 := by
  rw [Command.cacheSetGL]
  split
  · rename_i valid
    refine printable.setState ?_
    intro living
    split at living
    · cases living
    · rename_i alive
      rw [if_neg alive]
      apply printable addr
      exact Gl.isInitialized_iff.mpr ⟨valid, living⟩
  · exact printable

theorem ProtocolsPrintable.setGl (printable : ProtocolsPrintable tables) (new : GlPrintable gl) :
    ProtocolsPrintable (tables.setGl bus gl) := by
  constructor
  · intro other
    by_cases same : other = bus
    · subst same
      simp only [Tables.setGl, Function.update_self]
      exact new
    · simp only [Tables.setGl, Function.update_of_ne same]
      exact printable.gl other
  · exact printable.ga

theorem ProtocolsPrintable.setGa (printable : ProtocolsPrintable tables)
    (new : device.HasPrintable) : ProtocolsPrintable (tables.setGa bus addr device) := by
  constructor
  · exact printable.gl
  · intro bus' addr'
    by_cases sameBus : bus' = bus
    · subst sameBus
      by_cases same : addr' = addr
      · subst same
        simp only [Tables.setGa, Function.update_self]
        exact new
      · simp only [Tables.setGa, Function.update_self, Function.update_of_ne same]
        exact printable.ga bus' addr'
    · simp only [Tables.setGa, Function.update_of_ne sameBus]
      exact printable.ga bus' addr'

/-- Tables with the same decoders. -/
theorem ProtocolsPrintable.congr (printable : ProtocolsPrintable tables)
    (sameGl : next.gl = tables.gl) (sameGa : next.ga = tables.ga) : ProtocolsPrintable next := by
  constructor
  · rw [sameGl]
    exact printable.gl
  · rw [sameGa]
    exact printable.ga

theorem ProtocolsPrintable.initGA {protocol : Char} (printable : ProtocolsPrintable tables)
    (taken : tables.initGA drivers now bus addr protocol = some (next, texts)) :
    ProtocolsPrintable next := by
  rw [Tables.initGA] at taken
  split at taken
  · rename_i accepted
    have protocolPrintable : Printable protocol := drivers.gaProtocols bus protocol accepted.2.2
    have remains : ∀ device : GaDevice, device.protocol = protocol →
        Printable ((drivers.ga bus).initGaFunc.elim (SrcpCode.ok, device)
          fun initGaFunc => initGaFunc device).2.protocol := by
      rintro device rfl
      rcases init : (drivers.ga bus).initGaFunc with _ | initGaFunc
      · exact protocolPrintable
      · exact drivers.gaInit bus initGaFunc init device protocolPrintable
    dsimp only at taken
    split at taken
    · cases taken
      exact printable.setGa fun _ => remains _ rfl
    · cases taken
      exact printable.setGa fun _ => remains _ rfl
  · cases taken
    exact printable

/-- What one operation does to the decoders. -/
theorem ProtocolsPrintable.operate {operation : Operation} (printable : ProtocolsPrintable tables)
    (taken : operate drivers tables now operation = some (next, texts)) :
    ProtocolsPrintable next := by
  cases operation with
  | cacheInitGL bus addr protocol protoversion nFs nFunc =>
      have kept : GlPrintable (tables.glAt bus now) := printable.gl bus
      have stored : ProtocolsPrintable (tables.setGl bus (Command.cacheInitGL (drivers.gl bus)
          (tables.glAt bus now) (tables.queue bus) addr protocol protoversion nFs nFunc).2.1) :=
        printable.setGl kept.cacheInitGL
      cases taken
      exact stored.congr rfl rfl
  | enqueueGL bus command =>
      have kept : GlPrintable (tables.glAt bus now) := printable.gl bus
      have stored : ProtocolsPrintable (tables.setGl bus (Command.enqueueGL (drivers.gl bus)
          (tables.glAt bus now) (tables.queue bus) command).2.1) :=
        printable.setGl kept.enqueueGL
      cases taken
      exact stored.congr rfl rfl
  | cacheSetGL bus addr l =>
      cases taken
      have kept : GlPrintable (tables.glAt bus now) := printable.gl bus
      exact printable.setGl kept.cacheSetGL
  | clearGL bus addr =>
      cases taken
      have kept : GlPrintable (tables.glAt bus now) := printable.gl bus
      exact printable.setGl (kept.setState fun dead => by cases dead)
  | initGA bus addr protocol => exact printable.initGA taken
  | setGA bus addr a =>
      simp only [Info.operate, Tables.setGA] at taken
      split at taken
      · cases taken
        exact printable.setGa (printable.ga bus addr)
      · cases taken
        exact printable
  | termGA bus addr =>
      simp only [Info.operate, Tables.termGA] at taken
      split at taken
      · cases taken
        exact printable.setGa fun dead => by cases dead
      · cases taken
        exact printable
  | lockGA bus addr =>
      simp only [Info.operate, Tables.lockGA] at taken
      split at taken
      · cases taken
        exact printable.setGa (printable.ga bus addr)
      · cases taken
        exact printable
  | unlockGA bus addr =>
      simp only [Info.operate, Tables.unlockGA] at taken
      split at taken
      · cases taken
        exact printable.setGa (printable.ga bus addr)
      · cases taken
        exact printable
  | countGA bus addr =>
      cases taken
      exact printable.setGa (printable.ga bus addr)
  | clock action =>
      rcases Option.map_eq_some_iff.mp taken with ⟨clock, stepped, result⟩
      cases action <;> simp only at result <;> repeat' split at result
      all_goals
        cases result
        exact printable.congr rfl rfl
  | fb bus action =>
      rcases Option.map_eq_some_iff.mp taken with ⟨after, stepped, result⟩
      cases result
      exact printable.congr rfl rfl
  | _ =>
      simp only [Info.operate, Tables.cacheLockGL, Tables.cacheUnlockGL, Tables.setGM] at taken
      repeat' split at taken
      all_goals
        cases taken
        exact printable.congr rfl rfl

end Tables

/-- The protocols stay printable in every run. -/
theorem ProtocolsPrintable.run {drivers : Drivers} {operations : List (Nat × Operation)}
    {watched last : Tables × List Announcement} (printable : ProtocolsPrintable watched.1)
    (executed : Transition.run (announceStep drivers) watched operations = some last) :
    ProtocolsPrintable last.1 := by
  have preserved : ∀ state operation after, ProtocolsPrintable state.1 →
      announceStep drivers state operation = some after → ProtocolsPrintable after.1 := by
    intro state operation after kept taken
    rcases Option.map_eq_some_iff.mp taken with ⟨result, operated, same⟩
    cases same
    exact kept.operate operated
  exact run_invariant preserved printable executed

end Srcpd.Info
