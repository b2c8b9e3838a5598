import Srcpd.Driver.Inits
import Srcpd.Session.Polls

/-!
# The line about a locomotive

`cacheInfoGL` writes a value for each function, with a shift of the function word by
the number of the function.  The number of functions is that of the init, which only
some of the drivers bound.  `right_iff` says for which inits the line is right.
-/

namespace Srcpd.GlLine

open Srcpd.Command Srcpd.Info Srcpd.Inits Srcpd.Queue

/-! ## Writing the line -/

/-- `(funcs >> i) & 0x01`; a shift by the width of the word or more is undefined. -/
def functionValue (funcs : BitVec 32) (i : Nat) : Option Bool :=
  if i < 32 then some (funcs.getLsbD i) else none

/-- A function as a character. -/
def digit (on : Bool) : List Char :=
  [if on then '1' else '0']

/-- The loop from the function F1 on. -/
def addFunctions (funcs : BitVec 32) : List Nat → List Char → Option (List Char)
  | [], message => some message
  | i :: indices, message =>
      (functionValue funcs i).bind fun on =>
        addFunctions funcs indices (snprintf (message ++ ' ' :: digit on))

/-- `none` when the buffer is left as it was or the text is undefined. -/
def cacheInfoGL (bus : Nat) (gl : Gl) (addr : Int) : Option (List Char) :=
  if gl.isInitialized addr then
    let state := gl.glstate addr
    (addFunctions state.funcs (List.range' 1 (state.nFunc.toNat - 1))
      (glInfoStart bus addr state)).map fun message => snprintf (message ++ [newline])
  else none

/-! ## Reading the line -/

/-- Of the callers: `reply` and `msg`. -/
def callerBuffers : List Nat := [maxsrcplinelen, 1000]

/-- The words behind time, code, `INFO`, bus, `GL`, address, direction, speed and
speed steps. -/
def functionValues (text : List Char) : List (List Char) :=
  ((text.takeWhile fun symbol => symbol != newline).splitOn ' ').drop 9

/-- One line with a value for each function, at least for F0, in the buffers of the
callers. -/
structure Describes (state : GlState) (text : List Char) : Prop where
  line : ∃ body, text = body ++ [newline] ∧ ∀ symbol ∈ body, Printable symbol
  count : (functionValues text).length = max 1 state.nFunc.toNat
  values : ∀ i word, (functionValues text)[i]? = some word →
    ∃ on, functionValue state.funcs i = some on ∧ word = digit on
  fits : ∀ size ∈ callerBuffers, text.length < size

/-- The line is written, and it describes the record. -/
def Right (bus : Nat) (gl : Gl) (addr : Int) : Prop :=
  ∃ text, cacheInfoGL bus gl addr = some text ∧ Describes (gl.glstate addr) text

/-- A driver whose test of an init bounds the functions. -/
def BoundsFunctions : Kind → Prop
  | .ddl .. | .ib | .selectrix => True
  | .dccar | .li100 | .loconet | .loopback | .m6051 | .zimo | .i2cDev => False

section Lines

variable {bus : Nat} {gl : Gl} {addr : Int} {state : GlState} {funcs : BitVec 32}
  {indices : List Nat} {message : List Char}

theorem text_functionBit (i : Nat) : (functionBit funcs i).text = digit (funcs.getLsbD i) := by
  rw [functionBit]
  cases funcs.getLsbD i with
  | false => decide
  | true => decide

/-- Inside the word the loop is the one without undefined shifts. -/
theorem addFunctions_of_lt (small : ∀ i ∈ indices, i < 32) :
    addFunctions funcs indices message =
      some (indices.foldl
        (fun message i => snprintf (message ++ ' ' :: (functionBit funcs i).text)) message) := by
  induction indices generalizing message with
  | nil => rfl
  | cons i indices ih =>
      have first : functionValue funcs i = some (funcs.getLsbD i) :=
        if_pos (small i List.mem_cons_self)
      rw [addFunctions, first, Option.bind_some,
        ih fun j mem => small j (List.mem_cons_of_mem _ mem), List.foldl_cons, text_functionBit]

theorem addFunctions_of_le {i : Nat} (mem : i ∈ indices) (beyond : 32 ≤ i) :
    addFunctions funcs indices message = none := by
  induction indices generalizing message with
  | nil => cases mem
  | cons j indices ih =>
      rw [addFunctions]
      rcases List.mem_cons.mp mem with rfl | rest
      · rw [functionValue, if_neg (Nat.not_lt.mpr beyond), Option.bind_none]
      · cases functionValue funcs j with
        | none => rfl
        | some on => exact ih rest

/-- Up to 32 functions the text is defined and that of the announcements. -/
theorem cacheInfoGL_of_le (few : (gl.glstate addr).nFunc ≤ 32) :
    cacheInfoGL bus gl addr = Info.cacheInfoGL bus gl addr := by
  rw [cacheInfoGL, Info.cacheInfoGL]
  split
  · dsimp only
    rw [addFunctions_of_lt]
    · rfl
    · intro i mem
      rw [List.mem_range'_1] at mem
      omega
  · rfl

theorem cacheInfoGL_of_gt (many : 32 < (gl.glstate addr).nFunc) :
    cacheInfoGL bus gl addr = none := by
  rw [cacheInfoGL]
  split
  · have last : 32 ∈ List.range' 1 ((gl.glstate addr).nFunc.toNat - 1) := by
      rw [List.mem_range'_1]
      omega
    dsimp only
    rw [addFunctions_of_le last (Nat.le_refl 32), Option.map_none]
  · rfl

/-- The words of a text are joined with those behind it. -/
theorem words_append_spaced (first : Word) (texts behind : List Word) :
    words (first :: texts) ++ spaced behind = words (first :: texts ++ behind) := by
  induction texts generalizing first with
  | nil =>
      induction behind generalizing first with
      | nil => simp [spaced]
      | cons second behind ih =>
          have joined := ih second
          rw [List.cons_append, List.nil_append] at joined ⊢
          rw [words_cons, ← joined]
          simp [spaced, words]
  | cons second texts ih =>
      rw [words_cons, List.append_assoc, List.cons_append, ih second]
      rfl

theorem blank_not_mem_long {number : Int} : ' ' ∉ (Word.long number).text := by
  intro mem
  rcases List.mem_append.mp mem with sign | digits
  · split at sign
    · exact absurd (List.mem_singleton.mp sign) (by decide)
    · cases sign
  · exact CmdClient.blank_not_mem_toDigits digits

theorem blank_not_mem_digit {on : Bool} : ' ' ∉ digit on := by
  cases on <;> decide

/-- The words of the line. -/
def headWords (bus : Nat) (addr : Int) (state : GlState) : List Word :=
  [.int 100, Keyword.info.word, .long bus, Keyword.gl.word, .int addr, .int state.direction,
    .int state.speed, .int state.nFs]

theorem glInfoBody_eq :
    glInfoBody bus addr state =
      words (.stamp state.tv :: headWords bus addr state ++
        (List.range (max 1 state.nFunc.toNat)).map (functionBit state.funcs)) := by
  have values : (List.range (max 1 state.nFunc.toNat)).map (functionBit state.funcs) =
      functionBit state.funcs 0 ::
        (List.range' 1 (state.nFunc.toNat - 1)).map (functionBit state.funcs) := by
    have some_value : max 1 state.nFunc.toNat = state.nFunc.toNat - 1 + 1 := by omega
    rw [some_value, List.range_eq_range', List.range'_succ, List.map_cons]
  rw [glInfoBody, glInfoStart, words_append_spaced, values]
  rfl

theorem printable_glInfoBody : ∀ symbol ∈ glInfoBody bus addr state, Printable symbol := by
  rw [glInfoBody_eq]
  exact printable_words

theorem functionValues_line :
    functionValues (glInfoBody bus addr state ++ [newline]) =
      (List.range (max 1 state.nFunc.toNat)).map fun i => digit (state.funcs.getLsbD i) := by
  have clean : newline ∉ glInfoBody bus addr state := fun mem =>
    (printable_glInfoBody newline mem).1 rfl
  rw [functionValues, takeWhile_text clean, glInfoBody_eq, words, List.splitOn_intercalate]
  · have nine : ((.stamp state.tv :: headWords bus addr state).map Word.text).length = 9 := rfl
    rw [List.map_append, ← nine, List.drop_left, List.map_map]
    apply List.map_congr_left
    intro i _
    exact text_functionBit i
  · intro text mem
    obtain ⟨word, listed, rfl⟩ := List.mem_map.mp mem
    rcases List.mem_append.mp listed with head | value
    · rcases List.mem_cons.mp head with rfl | head
      · exact CmdClient.blank_not_mem_stamp
      · simp only [headWords, List.mem_cons, List.not_mem_nil, or_false] at head
        rcases head with rfl | rfl | rfl | rfl | rfl | rfl | rfl | rfl
        · exact blank_not_mem_long
        · decide
        · exact blank_not_mem_long
        · decide
        · exact blank_not_mem_long
        · exact blank_not_mem_long
        · exact blank_not_mem_long
        · exact blank_not_mem_long
    · obtain ⟨i, -, rfl⟩ := List.mem_map.mp value
      rw [text_functionBit]
      exact blank_not_mem_digit
  · simp

theorem length_glInfoBody (few : state.nFunc ≤ 32) :
    (glInfoBody bus addr state).length ≤ 450 := by
  have head : (glInfoStart bus addr state).length ≤ 10 * (wordLimit + 1) := length_words
  have values : (spaced ((List.range' 1 (state.nFunc.toNat - 1)).map
      (functionBit state.funcs))).length = 2 * (state.nFunc.toNat - 1) := by
    rw [spaced, List.length_flatMap, List.map_map]
    simp [text_functionBit, digit, Function.comp_def, Nat.mul_comm]
  rw [glInfoBody, List.length_append, values]
  rw [wordLimit] at head
  omega

/-- The line of a locomotive is right up to 32 functions. -/
theorem right_iff_functions (initialized : gl.isInitialized addr = true) :
    Right bus gl addr ↔ (gl.glstate addr).nFunc ≤ 32 := by
  constructor
  · rintro ⟨text, written, -⟩
    by_contra many
    rw [cacheInfoGL_of_gt (by omega)] at written
    cases written
  · intro few
    have short : (glInfoBody bus addr (gl.glstate addr)).length ≤ 450 := length_glInfoBody few
    have whole : snprintf (glInfoBody bus addr (gl.glstate addr) ++ [newline]) =
        glInfoBody bus addr (gl.glstate addr) ++ [newline] := by
      rw [snprintf, List.take_of_length_le]
      rw [List.length_append, List.length_singleton, maxsrcplinelen]
      omega
    refine ⟨glInfoBody bus addr (gl.glstate addr) ++ [newline], ?_, ?_⟩
    · rw [cacheInfoGL_of_le few, cacheInfoGL_eq initialized, whole]
    · constructor
      · exact ⟨_, rfl, printable_glInfoBody⟩
      · rw [functionValues_line, List.length_map, List.length_range]
      · intro i word at_index
        rw [functionValues_line, List.getElem?_map] at at_index
        obtain ⟨j, listed, rfl⟩ := Option.map_eq_some_iff.mp at_index
        obtain ⟨inside, same⟩ := List.getElem?_eq_some_iff.mp listed
        rw [List.getElem_range] at same
        rw [List.length_range] at inside
        subst same
        exact ⟨_, if_pos (by omega), rfl⟩
      · intro size mem
        rw [List.length_append, List.length_singleton]
        simp only [callerBuffers, maxsrcplinelen, List.mem_cons, List.not_mem_nil, or_false] at mem
        rcases mem with rfl | rfl <;> omega

end Lines

/-! ## Inits -/

section Accepted

variable {kind : Kind} {gl : Gl} {tgl : GlState}

/-- No driver changes the number of functions. -/
theorem initGl_nFunc : (kind.driver.initGl tgl).2.nFunc = tgl.nFunc := by
  cases kind with
  | ib =>
      show (initGlIB tgl).2.nFunc = tgl.nFunc
      rw [initGlIB]
      dsimp only
      split <;> rfl
  | _ => rfl

theorem nFunc_le_of_boundsFunctions (bounds : BoundsFunctions kind)
    (accepted : (kind.driver.initGl tgl).1 = .ok) : tgl.nFunc ≤ 32 := by
  cases kind with
  | ddl maerklin nmra =>
      change Ddl.initGlDDL tgl = .ok at accepted
      rw [Ddl.initGlDDL] at accepted
      split_ifs at accepted <;> omega
  | ib =>
      change (initGlIB tgl).1 = .ok at accepted
      rw [initGlIB] at accepted
      dsimp only at accepted
      split at accepted
      · cases accepted
      · omega
  | selectrix =>
      change initGlSelectrix tgl = .ok at accepted
      rw [initGlSelectrix] at accepted
      split_ifs at accepted
      omega
  | dccar => cases bounds
  | li100 => cases bounds
  | loconet => cases bounds
  | loopback => cases bounds
  | m6051 => cases bounds
  | zimo => cases bounds
  | i2cDev => cases bounds

variable {queue : Log GlState} {addr : Int} {protocol : Char} {protoversion nFs nFunc : Int}

/-- An accepted init leaves an initialised locomotive with the functions of the init. -/
theorem cacheInitGL_functions
    (accepted : (cacheInitGL kind.driver gl queue addr protocol protoversion nFs nFunc).1 = .ok) :
    let initialised := (cacheInitGL kind.driver gl queue addr protocol protoversion nFs nFunc).2.1
    initialised.isInitialized addr = true ∧ (initialised.glstate addr).nFunc = nFunc ∧
      (BoundsFunctions kind → nFunc ≤ 32) := by
  refine ⟨cacheInitGL_isInitialized accepted, ?_⟩
  obtain ⟨-, -, init, result⟩ := cacheInitGL_ok accepted
  simp only [result, Gl.setState, Function.update_self]
  exact ⟨initGl_nFunc, fun bounds => nFunc_le_of_boundsFunctions bounds init⟩

end Accepted

/-- The record of an initialised locomotive at some time. -/
def driving (gl : Gl) (addr direction speed : Int) (funcs : BitVec 32) (tv : Nat) : Gl :=
  gl.setState addr { gl.glstate addr with
    direction := direction
    speed := speed
    funcs := funcs
    tv := tv }

theorem driving_glstate (gl : Gl) (addr direction speed : Int) (funcs : BitVec 32) (tv : Nat) :
    (driving gl addr direction speed funcs tv).glstate addr =
      { gl.glstate addr with direction := direction, speed := speed, funcs := funcs, tv := tv } :=
  Function.update_self _ _ _

theorem driving_isInitialized {gl : Gl} {addr : Int} (initialized : gl.isInitialized addr = true)
    (direction speed : Int) (funcs : BitVec 32) (tv : Nat) :
    (driving gl addr direction speed funcs tv).isInitialized addr = true := by
  obtain ⟨valid, living⟩ := Gl.isInitialized_iff.mp initialized
  apply Gl.isInitialized_iff.mpr
  rw [driving_glstate]
  exact ⟨valid, living⟩

/-- The inits for which the line is right, whatever the locomotive does afterwards. -/
theorem right_iff (kind : Kind) {gl : Gl} {queue : Log GlState} {addr : Int} {protocol : Char}
    {protoversion nFs nFunc : Int}
    (accepted : (cacheInitGL kind.driver gl queue addr protocol protoversion nFs nFunc).1 = .ok)
    (bus : Nat) (direction speed : Int) (funcs : BitVec 32) (tv : Nat) :
    let initialised := (cacheInitGL kind.driver gl queue addr protocol protoversion nFs nFunc).2.1
    Right bus (driving initialised addr direction speed funcs tv) addr ↔
      BoundsFunctions kind ∨ nFunc ≤ 32 := by
  obtain ⟨initialized, same, bounded⟩ := cacheInitGL_functions accepted
  intro initialised
  rw [right_iff_functions (driving_isInitialized initialized direction speed funcs tv),
    driving_glstate]
  change (initialised.glstate addr).nFunc ≤ 32 ↔ _
  rw [same]
  constructor
  · exact Or.inr
  · rintro (bounds | few)
    · exact bounded bounds
    · exact few

/-- `INIT 1 GL 3 N 1 28 5` on a bus with a LI100. -/
theorem right_iff_fiveFunctions :
    Right 1 (driving (cacheInitGL Kind.li100.driver (Bus.start 80).gl (Bus.start 80).queue 3 'N'
        1 28 5).2.1 3 1 14 3 0) 3 ↔
      BoundsFunctions Kind.li100 ∨ (5 : Int) ≤ 32 :=
  right_iff .li100 rfl 1 1 14 3 0

/-- After `INIT 1 GL 3 N 1 28 33` the function word is shifted by its width. -/
theorem not_right :
    ¬ Right 1 (driving (cacheInitGL Kind.li100.driver (Bus.start 80).gl (Bus.start 80).queue 3
        'N' 1 28 33).2.1 3 1 14 3 0) 3 := by
  rintro ⟨text, written, -⟩
  rw [cacheInfoGL_of_gt (by decide)] at written
  cases written

end Srcpd.GlLine
