import Mathlib.Data.List.GetD
import Srcpd.Search.Backtrack
import Srcpd.Ddl.Translate

/-!
# What the second translation finds

`translateBitstream2Packetstream_v2` tries the patterns of the table from the last one
down, keeps its decisions on a stack and walks the bit stream back when it takes one
back.  It is the search of `Srcpd.Search` in lock step: a decision is allowed when its
pattern is next in the bit stream, and the goal is a rest of at most five ones.  So it
ends on every bit stream, what it sends is the bit stream with at most five ones behind
it, and it fails only where no patterns give that, or where the packet is full.
-/

namespace Srcpd.Ddl

open Srcpd.Search Srcpd.Transition

/-! ## Patterns in a row -/

/-- The bits that entries of the table send. -/
def sentBits (entries : List TranslateEntry) : Bitstream :=
  entries.flatMap TranslateEntry.pattern

@[simp]
theorem sentBits_append (front back : List TranslateEntry) :
    sentBits (front ++ back) = sentBits front ++ sentBits back :=
  List.flatMap_append

@[simp]
theorem sentBits_singleton (entry : TranslateEntry) : sentBits [entry] = entry.pattern :=
  List.flatMap_singleton ..

/-- Entries of the table send the bit stream and then some ones. -/
structure Translates (bitstream : Bitstream) (entries : List TranslateEntry) (ones : Nat) :
    Prop where
  entries_mem : ∀ entry ∈ entries, entry ∈ translateData
  ones_le : ones ≤ 5
  sends : sentBits entries = bitstream ++ List.replicate ones true

/-- The entries of the decisions, the oldest first. -/
def decided (stack : List Nat) : List TranslateEntry :=
  (stack.reverse.map Int.ofNat).map translateDataAt

@[simp]
theorem decided_nil : decided [] = [] := rfl

@[simp]
theorem decided_cons (choice : Nat) (stack : List Nat) :
    decided (choice :: stack) = decided stack ++ [translateDataAt choice] := by
  simp [decided]

@[simp]
theorem length_decided (stack : List Nat) : (decided stack).length = stack.length := by
  simp [decided]

theorem translateDataAt_mem {choice : Nat} (inTable : choice < dataCnt) :
    translateDataAt choice ∈ translateData := by
  rw [translateDataAt, Int.toNat_natCast, List.getD_eq_getElem _ _ inTable]
  exact List.getElem_mem inTable

theorem exists_translateDataAt {entry : TranslateEntry} (member : entry ∈ translateData) :
    ∃ choice, choice < dataCnt ∧ translateDataAt choice = entry := by
  rcases List.getElem_of_mem member with ⟨choice, inTable, rfl⟩
  refine ⟨choice, inTable, ?_⟩
  rw [translateDataAt, Int.toNat_natCast, List.getD_eq_getElem _ _ inTable]

/-! ## The search -/

/-- The bits that are left behind the patterns of the decisions. -/
def leftBits (bitstream : Bitstream) (stack : List Nat) : Bitstream :=
  bitstream.drop (sentBits (decided stack)).length

/-- The second version as a search: a stack of entries that spells the stream. -/
def translation (bitstream : Bitstream) : Problem where
  choices := dataCnt
  allowed stack choice := (translateDataAt choice).pattern.isPrefixOf (leftBits bitstream stack)
  goal stack := v2AtEnd (leftBits bitstream stack)

theorem candidate_translation (bitstream : Bitstream) (stack : List Nat) (below : Nat) :
    (translation bitstream).candidate stack below =
      findPattern (leftBits bitstream stack) below := by
  induction below with
  | zero => rfl
  | succ below ih =>
      rw [Problem.candidate, findPattern, ih]
      rfl

theorem leftBits_cons {bitstream after : Bitstream} {stack : List Nat} {choice : Nat}
    (next : (translateDataAt choice).pattern ++ after = leftBits bitstream stack) :
    leftBits bitstream (choice :: stack) = after := by
  rw [leftBits, decided_cons, sentBits_append, sentBits_singleton, List.length_append,
    ← List.drop_drop]
  change (leftBits bitstream stack).drop _ = after
  rw [← next, List.drop_left]

theorem valid_cons {bitstream after : Bitstream} {stack : List Nat} {choice : Nat}
    (valid : (translation bitstream).Valid stack) (inTable : choice < dataCnt)
    (next : (translateDataAt choice).pattern ++ after = leftBits bitstream stack) :
    (translation bitstream).Valid (choice :: stack) :=
  ⟨inTable, List.isPrefixOf_iff_prefix.mpr ⟨after, next⟩, valid⟩

/-- Allowed decisions send a prefix of the bit stream. -/
theorem sentBits_leftBits {bitstream : Bitstream} {stack : List Nat}
    (valid : (translation bitstream).Valid stack) :
    sentBits (decided stack) ++ leftBits bitstream stack = bitstream := by
  induction stack with
  | nil => rfl
  | cons choice stack ih =>
      obtain ⟨-, allowed, older⟩ := valid
      rcases List.isPrefixOf_iff_prefix.mp allowed with ⟨after, next⟩
      rw [leftBits_cons next, decided_cons, sentBits_append, sentBits_singleton,
        List.append_assoc, next]
      exact ih older

theorem decided_mem {bitstream : Bitstream} {stack : List Nat}
    (valid : (translation bitstream).Valid stack) :
    ∀ entry ∈ decided stack, entry ∈ translateData := by
  induction stack with
  | nil => exact fun entry member => absurd member List.not_mem_nil
  | cons choice stack ih =>
      intro entry member
      rw [decided_cons, List.mem_append, List.mem_singleton] at member
      rcases member with older | rfl
      · exact ih valid.2.2 entry older
      · exact translateDataAt_mem valid.1

/-! ## Goals -/

theorem v2AtEnd_iff (rest : Bitstream) :
    v2AtEnd rest = true ↔ ∃ ones, ones ≤ 5 ∧ rest = List.replicate ones true := by
  rw [v2AtEnd, Bool.and_eq_true, decide_eq_true_eq, List.all_eq_true]
  constructor
  · rintro ⟨short, all⟩
    exact ⟨rest.length, short, List.eq_replicate_of_mem all⟩
  · rintro ⟨ones, short, rfl⟩
    rw [List.length_replicate]
    exact ⟨short, fun bit member => List.eq_of_mem_replicate member⟩

/-- What is left of a pattern that ends with ones is all ones or a pattern. -/
theorem pattern_cut : ∀ entry ∈ translateData, ∀ length < entry.pattern.length,
    (entry.pattern.drop length).all id = true →
      v2AtEnd (entry.pattern.take length) = true ∨
        ∃ shorter ∈ translateData, shorter.pattern = entry.pattern.take length := by
  decide

/-- What is left of the bit stream behind a valid stack can be sent by entries of the
table, up to some ones; then the search has a goal above the stack. -/
theorem exists_goal {bitstream : Bitstream} {entries : List TranslateEntry}
    (members : ∀ entry ∈ entries, entry ∈ translateData) {stack : List Nat} {ones : Nat}
    (valid : (translation bitstream).Valid stack)
    (sends : sentBits entries = leftBits bitstream stack ++ List.replicate ones true) :
    ∃ goal, (translation bitstream).Valid goal ∧ (translation bitstream).goal goal = true := by
  induction entries generalizing stack with
  | nil =>
      rcases List.append_eq_nil_iff.mp sends.symm with ⟨nothing, -⟩
      refine ⟨stack, valid, ?_⟩
      change v2AtEnd (leftBits bitstream stack) = true
      rw [nothing]
      rfl
  | cons entry entries ih =>
      have member := members entry List.mem_cons_self
      have others (other : TranslateEntry) (inside : other ∈ entries) : other ∈ translateData :=
        members other (List.mem_cons_of_mem entry inside)
      have send {after : Bitstream} (next : entry.pattern ++ after = leftBits bitstream stack)
          (rest : sentBits entries = after ++ List.replicate ones true) :
          ∃ goal, (translation bitstream).Valid goal ∧
            (translation bitstream).goal goal = true := by
        rcases exists_translateDataAt member with ⟨choice, inTable, rfl⟩
        apply ih others (valid_cons valid inTable next)
        rw [leftBits_cons next]
        exact rest
      rcases List.append_eq_append_iff.mp sends with ⟨after, next, rest⟩ | ⟨cut, whole, rest⟩
      · exact send next.symm rest
      · by_cases exact_fit : cut = []
        · rw [exact_fit, List.append_nil] at whole
          rw [exact_fit, List.nil_append] at rest
          have next : entry.pattern ++ [] = leftBits bitstream stack := by
            rw [List.append_nil]
            exact whole
          exact send next rest.symm
        · -- The last bit of the stream is inside the pattern; behind it there are ones.
          have ends : (entry.pattern.drop (leftBits bitstream stack).length).all id = true := by
            rw [whole, List.drop_left, List.all_eq_true]
            intro bit inside
            exact List.eq_of_mem_replicate (rest ▸ List.mem_append_left _ inside)
          have shorter : (leftBits bitstream stack).length < entry.pattern.length := by
            rw [whole, List.length_append]
            exact Nat.lt_add_of_pos_right (List.length_pos_of_ne_nil exact_fit)
          rcases pattern_cut entry member _ shorter ends with atEnd | ⟨fitting, inside, fits⟩
          · rw [whole, List.take_left] at atEnd
            exact ⟨stack, valid, atEnd⟩
          · rw [whole, List.take_left] at fits
            rcases exists_translateDataAt inside with ⟨choice, inTable, rfl⟩
            have next : (translateDataAt choice).pattern ++ [] = leftBits bitstream stack := by
              rw [List.append_nil]
              exact fits
            refine ⟨choice :: stack, valid_cons valid inTable next, ?_⟩
            change v2AtEnd (leftBits bitstream (choice :: stack)) = true
            rw [leftBits_cons next]
            rfl

/-- A goal of the search translates the bit stream. -/
theorem translates_goal {bitstream : Bitstream} {stack : List Nat}
    (valid : (translation bitstream).Valid stack) (nothing : leftBits bitstream stack = []) :
    Translates bitstream (decided stack) 0 := by
  refine ⟨decided_mem valid, Nat.zero_le _, ?_⟩
  have whole := sentBits_leftBits valid
  rw [nothing, List.append_nil] at whole
  rw [whole, List.replicate_zero, List.append_nil]

/-- `11111`, which is sent for the ones at the end. -/
def onesEntry : TranslateEntry := ⟨[true, true, true, true, true], 0x55⟩

theorem onesEntry_mem : onesEntry ∈ translateData := by decide

theorem translates_ones {bitstream : Bitstream} {stack : List Nat} {ones : Nat}
    (valid : (translation bitstream).Valid stack) (short : ones ≤ 5)
    (atEnd : leftBits bitstream stack = List.replicate ones true) :
    Translates bitstream (decided stack ++ [onesEntry]) (5 - ones) := by
  refine ⟨fun entry member => ?_, Nat.sub_le _ _, ?_⟩
  · rw [List.mem_append, List.mem_singleton] at member
    rcases member with older | rfl
    · exact decided_mem valid entry older
    · exact onesEntry_mem
  · have whole := sentBits_leftBits valid
    rw [atEnd] at whole
    have filled : onesEntry.pattern =
        List.replicate ones true ++ List.replicate (5 - ones) true := by
      rw [← List.replicate_add, Nat.add_sub_cancel' short]
      rfl
    rw [sentBits_append, sentBits_singleton, filled, ← List.append_assoc, whole]

/-! ## The loop in lock step -/

/-- The loop of the source is where the search is. -/
structure V2Follows (s : V2State) (search : Search.State) : Prop where
  position : s.position = (sentBits (decided search.stack)).length
  i : s.i + 1 = search.below
  j : s.j = search.stack.length
  room : search.stack.length < pktsize
  stack : (List.range search.stack.length).map s.stack = search.stack.reverse.map Int.ofNat
  whole : s.packetstream.length = pktsize
  written : s.packetstream.take search.stack.length =
    (decided search.stack).map TranslateEntry.value

/-- What the loop returns at the end of the search. -/
inductive V2Reports (bitstream : Bitstream) : Nat × Packetstream → Outcome → Prop
  | whole {stack : List Nat} {packetstream : Packetstream}
      (nothing : leftBits bitstream stack = [])
      (written : packetstream.take stack.length = (decided stack).map TranslateEntry.value) :
      V2Reports bitstream (stack.length + 1, packetstream) (.found stack)
  | ones {stack : List Nat} {packetstream : Packetstream}
      (written : packetstream.take (stack.length + 1) =
        (decided stack ++ [onesEntry]).map TranslateEntry.value) :
      V2Reports bitstream (stack.length + 2, packetstream) (.found stack)
  | full {stack : List Nat} {packetstream : Packetstream}
      (written : packetstream = (decided stack).map TranslateEntry.value) :
      V2Reports bitstream (0, packetstream) (.tooDeep stack)
  | failed (packetstream : Packetstream) : V2Reports bitstream (0, packetstream) .exhausted

theorem take_set_succ {α : Type} {values : List α} {index : Nat} (inside : index < values.length)
    (value : α) : (values.set index value).take (index + 1) = values.take index ++ [value] := by
  rw [List.take_succ_eq_append_getElem (by rw [List.length_set]; exact inside),
    List.getElem_set_self, List.take_set_of_le (le_refl index)]

theorem follows_init (bitstream : Bitstream) : V2Follows v2Init (translation bitstream).start where
  position := rfl
  i := rfl
  j := rfl
  room := Nat.succ_pos _
  stack := rfl
  whole := List.length_replicate
  written := rfl

theorem V2Follows.rest {s : V2State} {search : Search.State} (follows : V2Follows s search)
    (bitstream : Bitstream) :
    bitstream.drop s.position = leftBits bitstream search.stack := by
  rw [follows.position]
  rfl

/-- The pattern that the loop finds is the decision of the search. -/
theorem V2Follows.pattern {s : V2State} {search : Search.State} (follows : V2Follows s search)
    (bitstream : Bitstream) :
    findPattern (leftBits bitstream search.stack) (s.i + 1).toNat =
      (translation bitstream).candidate search.stack search.below := by
  rw [follows.i, Int.toNat_natCast, candidate_translation]

theorem V2Follows.push {bitstream : Bitstream} {s : V2State} {search : Search.State}
    {choice : Nat} (follows : V2Follows s search) (room : search.stack.length + 1 < pktsize) :
    V2Follows
      { packetstream := s.packetstream.set s.j (translateDataAt choice).value
        position := s.position + (translateDataAt choice).patternlength
        stack := Function.update s.stack s.j choice
        j := s.j + 1
        i := dataCnt - 1 }
      ⟨choice :: search.stack, (translation bitstream).choices⟩ := by
  have inside : search.stack.length < s.packetstream.length := by
    rw [follows.whole]
    exact follows.room
  constructor
  · simp [follows.position, TranslateEntry.patternlength]
  · exact Int.sub_add_cancel _ _
  · rw [follows.j, List.length_cons]
  · exact room
  · rw [List.length_cons, List.range_succ, List.map_append, List.reverse_cons, List.map_append,
      ← follows.stack, follows.j]
    congr 1
    · apply List.map_congr_left
      intro level below
      exact Function.update_of_ne (List.mem_range.mp below).ne _ _
    · simp
  · rw [List.length_set, follows.whole]
  · rw [List.length_cons, follows.j, take_set_succ inside, follows.written, decided_cons,
      List.map_append]
    rfl

theorem V2Follows.pop {s : V2State} {choice : Nat} {stack : List Nat} {below : Nat}
    (follows : V2Follows s ⟨choice :: stack, below⟩) :
    V2Follows
      { s with
        j := s.j - 1
        i := s.stack (s.j - 1) - 1
        position := s.position - (translateDataAt (s.stack (s.j - 1))).patternlength }
      ⟨stack, choice⟩ := by
  have level : s.j - 1 = stack.length := by
    rw [follows.j, List.length_cons, Nat.add_sub_cancel]
  have decisions := follows.stack
  rw [List.length_cons, List.range_succ, List.map_append, List.reverse_cons,
    List.map_append] at decisions
  rcases List.append_inj decisions (by simp) with ⟨older, newest⟩
  have top : s.stack (s.j - 1) = choice := by
    rw [level]
    exact List.singleton_inj.mp newest
  have bytes := congrArg (List.take stack.length) follows.written
  rw [List.length_cons, List.take_take, Nat.min_eq_left (Nat.le_succ _), decided_cons,
    List.map_append, List.take_left' (by simp)] at bytes
  constructor
  · simp [follows.position, top, TranslateEntry.patternlength]
  · rw [top]
    exact Int.sub_add_cancel _ _
  · exact level
  · exact Nat.lt_of_succ_lt follows.room
  · exact older
  · exact follows.whole
  · exact bytes

theorem v2AtEnd_false_ne_nil {rest : Bitstream} (missed : v2AtEnd rest = false) : rest ≠ [] := by
  rintro rfl
  contradiction

/-- One round of the loop is one step of the search. -/
theorem v2Body_follows {bitstream : Bitstream} {s : V2State} {search : Search.State}
    (follows : V2Follows s search) :
    Sum.LiftRel V2Follows (V2Reports bitstream) (v2Body bitstream s)
      ((translation bitstream).step pktsize search) := by
  have inside : search.stack.length < s.packetstream.length := by
    rw [follows.whole]
    exact follows.room
  rw [v2Body, follows.rest, follows.pattern]
  have stepped := (translation bitstream).stepped pktsize search
  generalize (translation bitstream).step pktsize search = outcome at stepped ⊢
  cases stepped with
  | found reached =>
      change v2AtEnd (leftBits bitstream search.stack) = true at reached
      by_cases nothing : leftBits bitstream search.stack = []
      · rw [if_pos nothing, follows.j]
        exact .inr (.whole nothing follows.written)
      · rw [if_neg nothing, if_pos reached, follows.j]
        refine .inr (.ones ?_)
        rw [take_set_succ inside, follows.written, List.map_append]
        rfl
  | @tooDeep choice missed taken deep =>
      change v2AtEnd (leftBits bitstream search.stack) = false at missed
      have full : pktsize ≤ s.j + 1 := by
        rw [follows.j]
        exact deep
      simp only [if_neg (v2AtEnd_false_ne_nil missed), missed, taken, if_pos full]
      have last : s.packetstream.length = search.stack.length + 1 := by
        rw [follows.whole]
        exact Nat.le_antisymm deep follows.room
      have written := take_set_succ inside (translateDataAt choice).value
      rw [List.take_of_length_le (by rw [List.length_set, last]), follows.written] at written
      refine .inr (.full ?_)
      rw [follows.j, decided_cons, List.map_append]
      exact written
  | push missed taken room =>
      change v2AtEnd (leftBits bitstream search.stack) = false at missed
      have fits : ¬ pktsize ≤ s.j + 1 := by
        rw [follows.j]
        exact Nat.not_le.mpr room
      simp only [if_neg (v2AtEnd_false_ne_nil missed), missed, taken, if_neg fits]
      exact .inl (follows.push room)
  | exhausted missed stuck empty =>
      change v2AtEnd (leftBits bitstream search.stack) = false at missed
      have bottom : ¬ 0 < s.j := by
        rw [follows.j, empty]
        exact Nat.lt_irrefl 0
      simp only [if_neg (v2AtEnd_false_ne_nil missed), missed, stuck, if_neg bottom]
      exact .inr (.failed s.packetstream)
  | @pop choice stack missed stuck top =>
      change v2AtEnd (leftBits bitstream search.stack) = false at missed
      have above : 0 < s.j := by
        rw [follows.j, top]
        exact Nat.succ_pos _
      have fits : ¬ pktsize ≤ s.j - 1 := by
        rw [follows.j]
        exact Nat.not_le.mpr (Nat.lt_of_le_of_lt (Nat.sub_le _ _) follows.room)
      simp only [if_neg (v2AtEnd_false_ne_nil missed), missed, stuck, if_pos above, if_neg fits]
      rcases search with ⟨_, below⟩
      cases top
      exact .inl follows.pop

/-! ## What is returned -/

theorem V2Reports.found {bitstream : Bitstream} {result : Nat × Packetstream} {stack : List Nat}
    (reports : V2Reports bitstream result (.found stack))
    (valid : (translation bitstream).Valid stack)
    (reached : (translation bitstream).goal stack = true) :
    ∃ entries ones, Translates bitstream entries ones ∧ result.1 = entries.length + 1 ∧
      result.2.take entries.length = entries.map TranslateEntry.value := by
  cases reports with
  | whole nothing written =>
      refine ⟨decided stack, 0, translates_goal valid nothing, ?_, ?_⟩
      · rw [length_decided]
      · rw [length_decided]
        exact written
  | ones written =>
      rcases (v2AtEnd_iff _).mp reached with ⟨ones, short, atEnd⟩
      refine ⟨decided stack ++ [onesEntry], 5 - ones, translates_ones valid short atEnd, ?_, ?_⟩
      · rw [List.length_append, length_decided, List.length_singleton]
      · rw [List.length_append, length_decided, List.length_singleton]
        exact written

/-- A failure of the search is one of the bit stream. -/
theorem not_translates {bitstream : Bitstream}
    (fails : ∀ stack, (translation bitstream).Valid stack →
      (translation bitstream).goal stack = false) :
    ¬ ∃ entries ones, Translates bitstream entries ones := by
  rintro ⟨entries, ones, translates⟩
  have empty : (translation bitstream).Valid [] := trivial
  rcases exists_goal translates.entries_mem empty translates.sends with ⟨goal, valid, reached⟩
  rw [fails goal valid] at reached
  contradiction

/-- The loop ends on every bit stream.  What it returns are the bytes of entries of the
table, which send the bit stream and at most five ones; it returns 0 only if there are no
such entries, or if the packet was full of entries that send a part of the bit stream. -/
theorem translateBitstream2PacketstreamV2_spec (bitstream : Bitstream) :
    ∃ enough number packetstream,
      (∀ fuel, enough ≤ fuel →
        translateBitstream2PacketstreamV2 fuel bitstream = some (number, packetstream)) ∧
      (number ≠ 0 → ∃ entries ones, Translates bitstream entries ones ∧
        number = entries.length + 1 ∧
        packetstream.take entries.length = entries.map TranslateEntry.value) ∧
      (number = 0 → (¬ ∃ entries ones, Translates bitstream entries ones) ∨
        ∃ entries, (∀ entry ∈ entries, entry ∈ translateData) ∧ entries.length = pktsize ∧
          sentBits entries <+: bitstream ∧
          packetstream = entries.map TranslateEntry.value) := by
  have room : 0 < pktsize := Nat.succ_pos _
  rcases (translation bitstream).search_total room with ⟨enough, outcome, settles, finished⟩
  rcases iterate_simulates (fun _ _ follows => v2Body_follows follows) (follows_init bitstream)
    (finished enough (le_refl enough)) with ⟨⟨number, packetstream⟩, run, reports⟩
  refine ⟨enough, number, packetstream, fun fuel le => iterate_mono le run, ?_, ?_⟩
  · intro success
    cases outcome with
    | found stack => exact reports.found settles.1 settles.2.1
    | tooDeep stack =>
        cases reports
        contradiction
    | exhausted =>
        cases reports
        contradiction
  · intro failure
    cases outcome with
    | found stack =>
        rcases reports.found settles.1 settles.2.1 with ⟨entries, -, -, counted, -⟩
        rw [failure] at counted
        contradiction
    | tooDeep stack =>
        obtain ⟨valid, deep⟩ := settles
        cases reports with
        | full written =>
            refine .inr ⟨decided stack, decided_mem valid, ?_, ?_, written⟩
            · rw [length_decided, deep]
            · exact ⟨leftBits bitstream stack, sentBits_leftBits valid⟩
    | exhausted => exact .inl (not_translates settles)

end Srcpd.Ddl
