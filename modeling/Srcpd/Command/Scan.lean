import Mathlib.Tactic

/-!
# Reading parameters

The conversions of `sscanf` that the command handlers use, on the text that is
left.  A handler gets the values up to the first conversion that fails.
-/

namespace Srcpd.Command

/-- `isspace` of the C locale. -/
def isSpace (symbol : Char) : Bool :=
  symbol == ' ' || (9 ≤ symbol.toNat && symbol.toNat ≤ 13)

/-- The white space that `sscanf` skips before a number or a word. -/
def skipSpace (text : List Char) : List Char :=
  text.dropWhile isSpace

/-- Limits of a `long`. -/
def clampLong (value : Int) : Int :=
  max (-2 ^ 63) (min value (2 ^ 63 - 1))

/-- The sign of a number and the text behind it. -/
def scanSign : List Char → Bool × List Char
  | '-' :: rest => (true, rest)
  | '+' :: rest => (false, rest)
  | text => (false, text)

/-- `%ld`. -/
def scanLong (text : List Char) : Option (Int × List Char) :=
  let signed := scanSign (skipSpace text)
  let digits := signed.2.takeWhile Char.isDigit
  if digits = [] then none
  else
    let number : Int := Nat.ofDigitChars 10 digits 0
    some (clampLong (if signed.1 then -number else number), signed.2.dropWhile Char.isDigit)

/-- Several `%ld` with blanks between them. -/
def scanLongs : Nat → List Char → List Int
  | 0, _ => []
  | count + 1, text =>
      match scanLong text with
      | none => []
      | some (value, rest) => value :: scanLongs count rest

/-- `%c` behind a blank. -/
def scanChar (text : List Char) : Option (Char × List Char) :=
  match skipSpace text with
  | [] => none
  | symbol :: rest => some (symbol, rest)

/-- `%s`. -/
def scanWord (text : List Char) : Option (List Char × List Char) :=
  let word := (skipSpace text).takeWhile fun symbol => !isSpace symbol
  if word = [] then none
  else some (word, (skipSpace text).dropWhile fun symbol => !isSpace symbol)

/-- The names of device groups are prefixes; `strncmp` of the first characters. -/
def startsWith (name text : List Char) : Bool :=
  text.take name.length == name

example : scanLongs 4 ['3', ' ', '-', '1', '2', ' ', 'x'] = [3, -12] := by
  decide

end Srcpd.Command
