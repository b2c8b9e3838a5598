import Srcpd.Info.Client

/-!
# The texts of messages

Every message is one line of words with blanks between them.  A word knows that it
has no character in it that would end the line, and how long it can be, so that a
line of few words is always a complete one.  What `snprintf` cuts off is the end of
the line, and with it the newline.
-/

namespace Srcpd.Info

/-- What ends each message. -/
def newline : Char := Char.ofNat 10

/-- The buffer of a line, with its NUL byte. -/
def maxsrcplinelen : Nat := 1001

/-- Neither the end of a line nor the end of a string. -/
def Printable (symbol : Char) : Prop :=
  symbol ≠ newline ∧ symbol ≠ nul

instance (symbol : Char) : Decidable (Printable symbol) :=
  inferInstanceAs (Decidable (_ ∧ _))

/-- The test of a text. -/
def isPrintable (text : List Char) : Bool :=
  text.all fun symbol => decide (Printable symbol)

theorem printable_of_isPrintable {text : List Char} (tested : isPrintable text = true) :
    ∀ symbol ∈ text, Printable symbol := by
  intro symbol mem
  exact of_decide_eq_true (List.all_eq_true.mp tested symbol mem)

/-- A literal is a list of letters to the kernel: these are tested, without decoding
the bytes of the string. -/
theorem printable_literal {letters : List Char} (tested : isPrintable letters = true) :
    ∀ symbol ∈ (String.ofList letters).toList, Printable symbol := by
  rw [String.toList_ofList]
  exact printable_of_isPrintable tested

theorem length_literal {letters : List Char} {bound : Nat} (short : letters.length ≤ bound) :
    (String.ofList letters).toList.length ≤ bound := by
  rwa [String.toList_ofList]

/-! ## Words -/

/-- No word is longer than this. -/
def wordLimit : Nat := 24

/-- A word of a message, short and printable. -/
structure Word where
  text : List Char
  printable : ∀ symbol ∈ text, Printable symbol
  short : text.length ≤ wordLimit

/-- The words that stand in the formats. -/
inductive Keyword
  | info
  | time
  | gl
  | ga
  | fb
  | gm
  | lock
  | session
  | command
  | server
  | resetting
  | terminating
  | error
  | no
  | data

/-- The letters of a keyword. -/
def Keyword.text : Keyword → List Char
  | info => ['I', 'N', 'F', 'O']
  | time => ['T', 'I', 'M', 'E']
  | gl => ['G', 'L']
  | ga => ['G', 'A']
  | fb => ['F', 'B']
  | gm => ['G', 'M']
  | lock => ['L', 'O', 'C', 'K']
  | session => ['S', 'E', 'S', 'S', 'I', 'O', 'N']
  | command => ['C', 'O', 'M', 'M', 'A', 'N', 'D']
  | server => ['S', 'E', 'R', 'V', 'E', 'R']
  | resetting => ['R', 'E', 'S', 'E', 'T', 'T', 'I', 'N', 'G']
  | terminating => ['T', 'E', 'R', 'M', 'I', 'N', 'A', 'T', 'I', 'N', 'G']
  | error => ['E', 'R', 'R', 'O', 'R']
  | no => ['n', 'o']
  | data => ['d', 'a', 't', 'a']

/-- A keyword as a word. -/
def Keyword.word (keyword : Keyword) : Word where
  text := keyword.text
  printable := by
    apply printable_of_isPrintable
    cases keyword <;> rfl
  short := by
    cases keyword <;> decide

theorem printable_of_isDigit {symbol : Char} (digit : symbol.isDigit) : Printable symbol := by
  constructor
  · rintro rfl
    exact absurd digit (by decide)
  · rintro rfl
    exact absurd digit (by decide)

theorem printable_toDigits {number : Nat} :
    ∀ symbol ∈ Nat.toDigits 10 number, Printable symbol := fun _ mem =>
  printable_of_isDigit (Nat.isDigit_of_mem_toDigits (by decide) (by decide) mem)

theorem length_toDigits {number : Nat} (small : number < 10 ^ 20) :
    (Nat.toDigits 10 number).length ≤ 20 :=
  (Nat.length_toDigits_le_iff (by decide) (by decide)).mpr small

/-- `%ld`. -/
def Word.long (number : Int) : Word where
  text := (if number.bmod (2 ^ 64) < 0 then ['-'] else []) ++
    Nat.toDigits 10 (number.bmod (2 ^ 64)).natAbs
  printable := by
    intro symbol mem
    rcases List.mem_append.mp mem with sign | digit
    · split at sign
      · rw [List.mem_singleton.mp sign]
        decide
      · cases sign
    · exact printable_toDigits symbol digit
  short := by
    have least : -(2 ^ 63) ≤ number.bmod (2 ^ 64) := Int.le_bmod (by decide)
    have most : number.bmod (2 ^ 64) < 2 ^ 63 := Int.bmod_lt (by decide)
    have small : (Nat.toDigits 10 (number.bmod (2 ^ 64)).natAbs).length ≤ 20 :=
      length_toDigits (by omega)
    rw [List.length_append, wordLimit]
    split
    · rw [List.length_singleton]
      omega
    · rw [List.length_nil]
      omega

/-- `%d`. -/
def Word.int (number : Int) : Word :=
  Word.long (number.bmod (2 ^ 32))

/-- `%lu`. -/
def Word.unsigned (number : Nat) : Word where
  text := Nat.toDigits 10 (number % 2 ^ 64)
  printable := printable_toDigits
  short := by
    have small : (Nat.toDigits 10 (number % 2 ^ 64)).length ≤ 20 := length_toDigits (by omega)
    rw [wordLimit]
    omega

/-- `%lu.%.3lu` of the seconds and the milliseconds; the time is in microseconds. -/
def Word.stamp (time : Nat) : Word where
  text := (Word.unsigned (time / 1000000)).text ++ '.' ::
    (List.replicate (3 - (Nat.toDigits 10 (time % 1000000 / 1000)).length) '0' ++
      Nat.toDigits 10 (time % 1000000 / 1000))
  printable := by
    intro symbol mem
    rcases List.mem_append.mp mem with sec | fraction
    · exact (Word.unsigned _).printable symbol sec
    · rcases List.mem_cons.mp fraction with rfl | fraction
      · decide
      · rcases List.mem_append.mp fraction with padding | digit
        · rw [List.eq_of_mem_replicate padding]
          decide
        · exact printable_toDigits symbol digit
  short := by
    have sec : (Nat.toDigits 10 (time / 1000000 % 2 ^ 64)).length ≤ 20 :=
      length_toDigits (by omega)
    have milli : time % 1000000 / 1000 < 10 ^ 3 := by omega
    have digits := (Nat.length_toDigits_le_iff (by decide) (by decide)).mpr milli
    rw [List.length_append, List.length_cons, List.length_append, List.length_replicate, wordLimit]
    change (Nat.toDigits 10 (time / 1000000 % 2 ^ 64)).length + _ ≤ 24
    omega

theorem Word.stamp_ne_nil (time : Nat) : (Word.stamp time).text ≠ [] := by
  intro empty
  have lengths := congrArg List.length empty
  simp [Word.stamp] at lengths

/-! ## Lines -/

/-- The words with blanks between them. -/
def words (texts : List Word) : List Char :=
  [' '].intercalate (texts.map Word.text)

/-- Words with a blank before each. -/
def spaced (texts : List Word) : List Char :=
  texts.flatMap fun word => ' ' :: word.text

/-- Words with blanks between them, and a newline. -/
def line (texts : List Word) : List Char :=
  words texts ++ [newline]

/-- `snprintf` to a buffer of a line. -/
def snprintf (text : List Char) : List Char :=
  text.take (maxsrcplinelen - 1)

/-- One non-empty line with its newline, not longer than the buffer of a line. -/
structure Complete (text : List Char) : Prop where
  split : ∃ body, text = body ++ [newline] ∧ body ≠ [] ∧ ∀ symbol ∈ body, Printable symbol
  short : text.length < maxsrcplinelen

variable {texts : List Word} {body : List Char}

theorem words_cons (first : Word) (second : Word) (texts : List Word) :
    words (first :: second :: texts) = first.text ++ ' ' :: words (second :: texts) := by
  simp [words, List.intercalate]

theorem printable_words : ∀ symbol ∈ words texts, Printable symbol := by
  induction texts with
  | nil =>
      intro symbol mem
      cases mem
  | cons first texts ih =>
      cases texts with
      | nil =>
          intro symbol mem
          exact first.printable symbol (by simpa [words] using mem)
      | cons second texts =>
          intro symbol mem
          rw [words_cons, List.mem_append, List.mem_cons] at mem
          rcases mem with word | rfl | rest
          · exact first.printable symbol word
          · decide
          · exact ih symbol rest

theorem length_words : (words texts).length ≤ texts.length * (wordLimit + 1) := by
  induction texts with
  | nil => exact Nat.zero_le _
  | cons first texts ih =>
      have bound := first.short
      cases texts with
      | nil =>
          simp only [words, List.map_cons, List.map_nil, List.length_cons, List.length_nil]
          simp
          omega
      | cons second texts =>
          have longer : (first :: second :: texts).length * (wordLimit + 1) =
              (second :: texts).length * (wordLimit + 1) + (wordLimit + 1) := Nat.succ_mul _ _
          rw [words_cons, List.length_append, List.length_cons, longer]
          omega

theorem printable_spaced : ∀ symbol ∈ spaced texts, Printable symbol := by
  rintro symbol mem
  rcases List.mem_flatMap.mp mem with ⟨word, _, inWord⟩
  rcases List.mem_cons.mp inWord with rfl | inText
  · decide
  · exact word.printable symbol inText

theorem length_spaced : (spaced texts).length ≤ texts.length * (wordLimit + 1) := by
  induction texts with
  | nil => exact Nat.zero_le _
  | cons first texts ih =>
      have bound := first.short
      have longer : (first :: texts).length * (wordLimit + 1) =
          texts.length * (wordLimit + 1) + (wordLimit + 1) := Nat.succ_mul _ _
      have split : spaced (first :: texts) = ' ' :: (first.text ++ spaced texts) := by
        simp [spaced]
      rw [split, longer, List.length_cons, List.length_append]
      omega

theorem words_ne_nil {first : Word} (nonempty : first.text ≠ []) : words (first :: texts) ≠ [] := by
  cases texts with
  | nil => simpa [words] using nonempty
  | cons second texts => simp [words_cons]

/-- The line of a few words, the first of them not empty, is complete. -/
theorem complete_line {first : Word} (nonempty : first.text ≠ []) (few : texts.length < 39) :
    Complete (line (first :: texts)) := by
  refine ⟨⟨words (first :: texts), rfl, words_ne_nil nonempty, printable_words⟩, ?_⟩
  · have bound : (words (first :: texts)).length ≤ (texts.length + 1) * (wordLimit + 1) :=
      length_words
    rw [line, List.length_append, List.length_singleton]
    have limits : wordLimit = 24 ∧ maxsrcplinelen = 1001 := ⟨rfl, rfl⟩
    rw [limits.1] at bound
    rw [limits.2]
    omega

theorem complete_of_printable (nonempty : body ≠ [])
    (printable : ∀ symbol ∈ body, Printable symbol) (short : body.length + 1 < maxsrcplinelen) :
    Complete (body ++ [newline]) := by
  constructor
  · exact ⟨body, rfl, nonempty, printable⟩
  · rwa [List.length_append, List.length_singleton]

/-- What was cut off was the newline. -/
theorem complete_snprintf_iff (nonempty : body ≠ [])
    (printable : ∀ symbol ∈ body, Printable symbol) :
    Complete (snprintf (body ++ [newline])) ↔ body.length + 1 < maxsrcplinelen := by
  constructor
  · rintro ⟨⟨other, split, _, _⟩, _⟩
    by_contra long
    have cut : snprintf (body ++ [newline]) = body.take (maxsrcplinelen - 1) := by
      rw [snprintf, List.take_append_of_le_length (by omega)]
    rw [cut] at split
    have mem : newline ∈ body.take (maxsrcplinelen - 1) := by
      rw [split]
      simp
    exact (printable newline (List.mem_of_mem_take mem)).1 rfl
  · intro short
    have whole : snprintf (body ++ [newline]) = body ++ [newline] := by
      rw [snprintf, List.take_of_length_le]
      rw [List.length_append, List.length_singleton]
      omega
    rw [whole]
    exact complete_of_printable nonempty printable short

/-- A second `snprintf` cuts where the first did. -/
theorem snprintf_append (text behind : List Char) :
    snprintf (snprintf text ++ behind) = snprintf (text ++ behind) := by
  simp only [snprintf, List.take_append, List.take_take, List.length_take, Nat.min_self]
  congr 2
  omega

theorem not_complete_nil : ¬ Complete [] := by
  rintro ⟨⟨body, split, _, _⟩, _⟩
  simp at split

end Srcpd.Info
