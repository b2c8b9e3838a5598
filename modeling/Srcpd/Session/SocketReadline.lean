import Srcpd.Types
import Mathlib.Data.List.Basic
import Mathlib.Logic.Function.Iterate

/-!
# The lines of a client

`socket_readline` tests every byte for a newline but the first one.  A call on an
empty line therefore reads the next line as well.  `readsLines_iff` says on which
streams the calls still return the lines.
-/

namespace Srcpd.Session.Readline

/-- A line feed. -/
def newline : Byte := 0x0a

/-! ## The source -/

/-- `isvalidchar`. -/
def isvalidchar (c : Byte) : Bool :=
  (0x20 ≤ c && c ≤ 127) || c == 0x09 || c == newline

/-- What a call returns and stores, and what is still to be read. -/
structure Call where
  count : Nat
  line : List Byte
  rest : List Byte

/-- The loop behind the first byte, with the line so far. -/
def readRest (len : Nat) : List Byte → List Byte → List Byte × List Byte
  | [], line => (line, [])
  | c :: stream, line =>
      let line := if isvalidchar c && line.length < len - 1 then line ++ [c] else line
      if c = newline then (line, stream) else readRest len stream line

/-- A stream ends where the client closes the connection. -/
def socketReadline (len : Nat) : List Byte → Call
  | [] => ⟨0, [], []⟩
  | c :: stream =>
      let line := if isvalidchar c then [c] else []
      let read := readRest len stream line
      ⟨read.1.length, read.1, read.2⟩

/-- The i-th of repeated calls. -/
def callAt (len : Nat) (stream : List Byte) (i : Nat) : Call :=
  socketReadline len ((fun stream => (socketReadline len stream).rest)^[i] stream)

/-! ## Lines -/

/-- The first line with its newline. -/
def firstLine : List Byte → List Byte
  | [] => []
  | c :: stream => if c = newline then [c] else c :: firstLine stream

/-- What follows the first line. -/
def behindLine : List Byte → List Byte
  | [] => []
  | c :: stream => if c = newline then stream else behindLine stream

/-- The i-th line with its newline. -/
def lineAt (stream : List Byte) (i : Nat) : List Byte :=
  firstLine (behindLine^[i] stream)

/-- The calls return the lines, as much of them as is valid and has room. -/
structure ReadsLine (len : Nat) (line : List Byte) (call : Call) : Prop where
  line : call.line = (line.filter isvalidchar).take (len - 1)
  count : call.count = call.line.length
  atEnd : call.count = 0 → call.rest = []

/-- Each call returns one line. -/
def ReadsLines (len : Nat) (stream : List Byte) : Prop :=
  ∀ i, ReadsLine len (lineAt stream i) (callAt len stream i)

/-- Nothing valid comes behind an empty line. -/
def EmptyLast (stream : List Byte) : Prop :=
  ∀ i, lineAt stream i = [newline] → ∀ c ∈ behindLine^[i + 1] stream, isvalidchar c = false

variable {len : Nat} {stream : List Byte} {c : Byte} {i : Nat}

@[simp]
theorem isvalidchar_newline : isvalidchar newline = true := by
  decide

theorem lineAt_succ (stream : List Byte) (i : Nat) :
    lineAt stream (i + 1) = lineAt (behindLine stream) i :=
  rfl

theorem firstLine_append_behindLine (stream : List Byte) :
    firstLine stream ++ behindLine stream = stream := by
  induction stream with
  | nil => rfl
  | cons c stream ih =>
      by_cases ended : c = newline
      · simp [firstLine, behindLine, ended]
      · simp [firstLine, behindLine, ended, ih]

theorem mem_of_mem_firstLine (mem : c ∈ firstLine stream) : c ∈ stream := by
  rw [← firstLine_append_behindLine stream]
  exact List.mem_append_left _ mem

theorem mem_of_mem_behindLine (mem : c ∈ behindLine stream) : c ∈ stream := by
  rw [← firstLine_append_behindLine stream]
  exact List.mem_append_right _ mem

theorem mem_of_mem_iterate (mem : c ∈ behindLine^[i] stream) : c ∈ stream := by
  induction i generalizing stream with
  | zero => exact mem
  | succ i ih => exact mem_of_mem_behindLine (ih mem)

theorem mem_of_mem_lineAt (mem : c ∈ lineAt stream i) : c ∈ stream :=
  mem_of_mem_iterate (mem_of_mem_firstLine mem)

/-- A line without newline is the last one. -/
theorem behindLine_eq_nil (unended : newline ∉ firstLine stream) : behindLine stream = [] := by
  induction stream with
  | nil => rfl
  | cons c stream ih =>
      by_cases ended : c = newline
      · simp [firstLine, ended] at unended
      · simp only [firstLine, if_neg ended, List.mem_cons, not_or] at unended
        simp only [behindLine, if_neg ended]
        exact ih unended.2

theorem length_behindLine (stream : List Byte) :
    (behindLine stream).length ≤ stream.length - 1 := by
  cases stream with
  | nil => exact Nat.le_refl 0
  | cons c stream =>
      rw [behindLine]
      split
      · exact Nat.le_refl _
      · have parts := congrArg List.length (firstLine_append_behindLine stream)
        rw [List.length_append] at parts
        simp only [List.length_cons]
        omega

theorem lineAt_length (stream : List Byte) : lineAt stream stream.length = [] := by
  have short (i : Nat) : (behindLine^[i] stream).length ≤ stream.length - i := by
    induction i with
    | zero => exact Nat.le_refl _
    | succ i ih =>
        rw [Function.iterate_succ_apply']
        have shorter := length_behindLine (behindLine^[i] stream)
        omega
  have none := short stream.length
  rw [Nat.sub_self, Nat.le_zero, List.length_eq_zero_iff] at none
  rw [lineAt, none]
  rfl

/-- A line with something valid. -/
def HasValid (line : List Byte) : Prop :=
  ∃ c ∈ line, isvalidchar c = true

theorem filter_eq_nil_of_not_hasValid {line : List Byte} (invalid : ¬ HasValid line) :
    line.filter isvalidchar = [] := by
  apply List.filter_eq_nil_iff.mpr
  intro c mem valid
  exact invalid ⟨c, mem, valid⟩

/-- Every line before a line has its newline. -/
theorem hasValid_of_succ (later : HasValid (lineAt stream (i + 1))) :
    HasValid (lineAt stream i) := by
  obtain ⟨c, mem, _⟩ := later
  refine ⟨newline, ?_, isvalidchar_newline⟩
  by_contra unended
  rw [lineAt, Function.iterate_succ_apply', behindLine_eq_nil unended] at mem
  cases mem

theorem hasValid_firstLine (valid : HasValid stream) : HasValid (firstLine stream) := by
  by_cases unended : newline ∈ firstLine stream
  · exact ⟨newline, unended, isvalidchar_newline⟩
  · have whole := firstLine_append_behindLine stream
    rw [behindLine_eq_nil unended, List.append_nil] at whole
    rwa [whole]

/-! ## One call -/

/-- The line with one more byte, as far as it is valid and has room. -/
theorem kept_append {line : List Byte} (c : Byte) (room : line.length ≤ len - 1)
    (text : List Byte) :
    let kept := if isvalidchar c && line.length < len - 1 then line ++ [c] else line
    kept.length ≤ len - 1 ∧
      kept ++ text.take (len - 1 - kept.length) =
        line ++ ([c].filter isvalidchar ++ text).take (len - 1 - line.length) := by
  intro kept
  by_cases valid : isvalidchar c = true
  · by_cases more : line.length < len - 1
    · have stored : kept = line ++ [c] := if_pos (by simp [valid, more])
      obtain ⟨left, further⟩ : ∃ left, len - 1 - line.length = left + 1 :=
        ⟨len - 1 - line.length - 1, by omega⟩
      have rest : len - 1 - kept.length = left := by
        rw [stored, List.length_append, List.length_singleton]
        omega
      refine ⟨?_, ?_⟩
      · rw [stored, List.length_append, List.length_singleton]
        omega
      · rw [rest, further, stored]
        simp [valid]
    · have stored : kept = line := if_neg (by simp [more])
      have full : len - 1 - line.length = 0 := by omega
      rw [stored, full]
      exact ⟨room, by simp⟩
  · have stored : kept = line := if_neg (by simp [valid])
    rw [stored]
    exact ⟨room, by simp [valid]⟩

theorem readRest_eq (len : Nat) (stream line : List Byte) (room : line.length ≤ len - 1) :
    readRest len stream line =
      (line ++ ((firstLine stream).filter isvalidchar).take (len - 1 - line.length),
        behindLine stream) := by
  induction stream generalizing line with
  | nil => simp [readRest, firstLine, behindLine]
  | cons c stream ih =>
      rw [readRest, firstLine, behindLine]
      by_cases ended : c = newline
      · obtain ⟨-, kept⟩ := kept_append c room []
        rw [List.take_nil, List.append_nil, List.append_nil] at kept
        rw [if_pos ended, if_pos ended, if_pos ended, kept]
      · obtain ⟨within, kept⟩ := kept_append c room ((firstLine stream).filter isvalidchar)
        rw [if_neg ended, if_neg ended, if_neg ended, ih _ within, kept, ← List.filter_append]
        rfl

/-- A call on a line that is not empty reads the line. -/
theorem socketReadline_line (least : 1 < len) (nonempty : c ≠ newline) :
    (socketReadline len (c :: stream)).line =
        ((firstLine (c :: stream)).filter isvalidchar).take (len - 1) ∧
      (socketReadline len (c :: stream)).rest = behindLine (c :: stream) := by
  have room : ([] : List Byte).length ≤ len - 1 := Nat.zero_le _
  have first : (if isvalidchar c then [c] else []) =
      if isvalidchar c && ([] : List Byte).length < len - 1 then [] ++ [c] else [] := by
    have more : 0 < len - 1 := by omega
    simp [more]
  have read := readRest_eq len (c :: stream) [] room
  rw [readRest] at read
  rw [if_neg nonempty, ← first] at read
  rw [socketReadline]
  dsimp only
  rw [read]
  exact ⟨rfl, rfl⟩

/-- A call on an empty line reads the next one as well. -/
theorem socketReadline_empty (least : 1 < len) :
    (socketReadline len (newline :: stream)).line =
        newline :: ((firstLine stream).filter isvalidchar).take (len - 2) ∧
      (socketReadline len (newline :: stream)).rest = behindLine stream := by
  have room : [newline].length ≤ len - 1 := by
    rw [List.length_singleton]
    omega
  rw [socketReadline]
  dsimp only
  rw [if_pos isvalidchar_newline, readRest_eq len stream _ room, List.length_singleton,
    Nat.sub_sub]
  exact ⟨rfl, rfl⟩

/-- 0 is returned at the end of the stream only. -/
theorem rest_eq_nil_of_count (least : 1 < len) (none : (socketReadline len stream).count = 0) :
    (socketReadline len stream).rest = [] := by
  cases stream with
  | nil => rfl
  | cons c stream =>
      have empty : (socketReadline len (c :: stream)).line = [] := List.length_eq_zero_iff.mp none
      by_cases nonempty : c = newline
      · rw [nonempty, (socketReadline_empty least).1] at empty
        cases empty
      · obtain ⟨line, rest⟩ := @socketReadline_line len stream c least nonempty
        rw [line, List.take_eq_nil_iff] at empty
        rw [rest]
        apply behindLine_eq_nil
        intro mem
        rcases empty with noRoom | invalid
        · omega
        · exact absurd isvalidchar_newline (List.filter_eq_nil_iff.mp invalid _ mem)

theorem count_eq (len : Nat) (stream : List Byte) :
    (socketReadline len stream).count = (socketReadline len stream).line.length := by
  cases stream <;> rfl

/-! ## All calls -/

theorem callAt_succ (len : Nat) (stream : List Byte) (i : Nat) :
    callAt len stream (i + 1) = callAt len (socketReadline len stream).rest i :=
  rfl

theorem behindLine_newline (stream : List Byte) : behindLine (newline :: stream) = stream := by
  rw [behindLine, if_pos rfl]

theorem lineAt_newline (stream : List Byte) : lineAt (newline :: stream) 0 = [newline] := by
  show firstLine (newline :: stream) = [newline]
  rw [firstLine, if_pos rfl]

/-- There are at least as many lines as calls that store something. -/
theorem hasValid_of_callAt (least : 1 < len) (stored : (callAt len stream i).line ≠ []) :
    HasValid (lineAt stream i) := by
  induction i generalizing stream with
  | zero =>
      cases stream with
      | nil => exact absurd rfl stored
      | cons c stream =>
          by_cases nonempty : c = newline
          · rw [nonempty, lineAt_newline]
            exact ⟨newline, List.mem_singleton_self _, isvalidchar_newline⟩
          · by_contra invalid
            apply stored
            have nothing := filter_eq_nil_of_not_hasValid invalid
            change (firstLine (c :: stream)).filter isvalidchar = [] at nothing
            show (socketReadline len (c :: stream)).line = []
            rw [(socketReadline_line least nonempty).1, nothing, List.take_nil]
  | succ i ih =>
      rw [callAt_succ] at stored
      have later := ih stored
      cases stream with
      | nil => exact later
      | cons c stream =>
          by_cases nonempty : c = newline
          · rw [nonempty, (socketReadline_empty least).2, ← lineAt_succ] at later
            rw [nonempty, lineAt_succ, behindLine_newline]
            exact hasValid_of_succ later
          · rw [(socketReadline_line least nonempty).2] at later
            exact later

theorem ReadsLine.stored {line : List Byte} {call : Call} (reads : ReadsLine len line call)
    (least : 1 < len) (valid : HasValid line) : call.line ≠ [] := by
  rw [reads.line]
  intro none
  rcases List.take_eq_nil_iff.mp none with noRoom | invalid
  · omega
  · obtain ⟨c, mem, valid⟩ := valid
    exact List.filter_eq_nil_iff.mp invalid c mem valid

/-- If the calls return the lines behind an empty one, each of these has another behind it. -/
theorem invalid_of_readsLines (least : 1 < len) (reads : ReadsLines len (newline :: stream)) :
    ¬ HasValid stream := by
  intro valid
  have endless (i : Nat) : HasValid (lineAt stream i) := by
    induction i with
    | zero => exact hasValid_firstLine valid
    | succ i ih =>
        have read := reads (i + 1)
        rw [lineAt_succ, behindLine_newline] at read
        have stored := read.stored least ih
        rw [callAt_succ, (socketReadline_empty least).2] at stored
        rw [lineAt_succ]
        exact hasValid_of_callAt least stored
  obtain ⟨c, mem, _⟩ := endless stream.length
  rw [lineAt_length] at mem
  cases mem

theorem readsLines_cons_iff (least : 1 < len) (nonempty : c ≠ newline) :
    ReadsLines len (c :: stream) ↔ ReadsLines len (behindLine (c :: stream)) := by
  obtain ⟨line, rest⟩ := @socketReadline_line len stream c least nonempty
  constructor
  · intro reads i
    have later := reads (i + 1)
    rwa [callAt_succ, rest] at later
  · intro reads i
    cases i with
    | zero => exact ⟨line, count_eq _ _, rest_eq_nil_of_count least⟩
    | succ i =>
        rw [callAt_succ, rest]
        exact reads i

theorem lineAt_nil (i : Nat) : lineAt [] i = [] := by
  induction i with
  | zero => rfl
  | succ i ih => exact ih

theorem callAt_nil (len i : Nat) : callAt len [] i = ⟨0, [], []⟩ := by
  induction i with
  | zero => rfl
  | succ i ih => exact ih

/-- An empty line is returned as such if nothing valid comes behind it. -/
theorem readsLines_newline (least : 1 < len) (invalid : ¬ HasValid stream) :
    ReadsLines len (newline :: stream) := by
  have unended : newline ∉ firstLine stream := fun mem =>
    invalid ⟨newline, mem_of_mem_firstLine mem, isvalidchar_newline⟩
  obtain ⟨line, rest⟩ := @socketReadline_empty len stream least
  intro i
  cases i with
  | zero =>
      refine ⟨?_, count_eq _ _, rest_eq_nil_of_count least⟩
      have first : ¬ HasValid (firstLine stream) := fun ⟨c, mem, valid⟩ =>
        invalid ⟨c, mem_of_mem_firstLine mem, valid⟩
      have one : len - 1 = len - 2 + 1 := by omega
      rw [lineAt_newline]
      show (socketReadline len (newline :: stream)).line = _
      rw [line, filter_eq_nil_of_not_hasValid first, one]
      simp
  | succ i =>
      have noLine : ¬ HasValid (lineAt (newline :: stream) (i + 1)) := by
        rintro ⟨c, mem, valid⟩
        rw [lineAt_succ, behindLine_newline] at mem
        exact invalid ⟨c, mem_of_mem_lineAt mem, valid⟩
      rw [callAt_succ, rest, behindLine_eq_nil unended, callAt_nil]
      refine ⟨?_, rfl, fun _ => rfl⟩
      rw [filter_eq_nil_of_not_hasValid noLine, List.take_nil]

/-! ### The condition -/

theorem emptyLast_newline_iff : EmptyLast (newline :: stream) ↔ ¬ HasValid stream := by
  constructor
  · rintro last ⟨c, mem, valid⟩
    have invalid := last 0 (lineAt_newline stream) c
    rw [Nat.zero_add, Function.iterate_one, behindLine_newline, valid] at invalid
    cases invalid mem
  · intro invalid i _ c mem
    rw [Function.iterate_succ_apply, behindLine_newline] at mem
    by_contra valid
    exact invalid ⟨c, mem_of_mem_iterate mem, eq_true_of_ne_false valid⟩

theorem emptyLast_cons_iff (nonempty : c ≠ newline) :
    EmptyLast (c :: stream) ↔ EmptyLast (behindLine (c :: stream)) := by
  constructor
  · exact fun last i => last (i + 1)
  · intro last i empty
    cases i with
    | zero =>
        change firstLine (c :: stream) = [newline] at empty
        rw [firstLine, if_neg nonempty] at empty
        exact absurd (List.cons.inj empty).1 nonempty
    | succ i => exact last i empty

/-- For every stream and length, the calls return the lines exactly when nothing valid comes
behind an empty line. -/
theorem readsLines_iff (len : Nat) (least : 1 < len) (stream : List Byte) :
    ReadsLines len stream ↔ EmptyLast stream := by
  induction left : stream.length using Nat.strongRecOn generalizing stream with
  | _ left' ih =>
      cases stream with
      | nil =>
          refine iff_of_true (fun i => ?_) fun i empty => ?_
          · rw [lineAt_nil, callAt_nil]
            exact ⟨List.take_nil.symm, rfl, fun _ => rfl⟩
          · rw [lineAt_nil] at empty
            cases empty
      | cons c stream =>
          by_cases nonempty : c = newline
          · rw [nonempty, emptyLast_newline_iff]
            exact ⟨invalid_of_readsLines least, readsLines_newline least⟩
          · rw [readsLines_cons_iff least nonempty, emptyLast_cons_iff nonempty]
            have shorter := length_behindLine (c :: stream)
            rw [List.length_cons] at left shorter
            exact ih _ (by omega) _ rfl

theorem readsLines_iff_lines :
    ReadsLines 1000 [0x47, 0x0d, newline, newline] ↔
      EmptyLast [0x47, 0x0d, newline, newline] :=
  readsLines_iff 1000 (by decide) [0x47, 0x0d, newline, newline]

/-- An empty line in front of another is returned together with it. -/
theorem not_readsLines : ¬ ReadsLines 1000 [newline, 0x47, newline] := by
  intro reads
  have line := (reads 0).line
  revert line
  decide

end Srcpd.Session.Readline
