/-
StaticSite.Number.Numeral — numerals with digits of any script.

A numeral may have blanks at its ends and one sign. Its digits may be those
of any script; letters for digits above nine are those of ASCII.
-/
import StaticSite.Number.Binary64
import StaticSite.Text.Blank
import StaticSite.Text.DecimalDigit

namespace StaticSite.Number

open StaticSite.Text

/-! ## 1. Characters -/

/-- A digit of another script as the one of ASCII, and a blank outside ASCII as a space. -/
def plainChar (c : Char) : Char :=
  if c.toNat < 127 then c
  else if isBlank c then ' '
  else
    match decimalValue? c with
    | some d => Char.ofNat (48 + d)
    | none => c

/-- A space or one of the control characters of ASCII that part words or lines. -/
def isAsciiSpace (c : Char) : Bool :=
  c == ' ' || (9 ≤ c.toNat && c.toNat ≤ 13)

/-- The characters of a numeral, without the spaces at its ends. -/
def plainNumeral (s : List Char) : List Char :=
  dropEndWhile isAsciiSpace ((s.map plainChar).dropWhile isAsciiSpace)

/-- A text without the sign it starts with. -/
def dropSign : List Char → List Char
  | '+' :: s => s
  | '-' :: s => s
  | s => s

/-- Does the text start with a minus sign? -/
def isNegative (s : List Char) : Bool :=
  s.head? == some '-'

/-! ## 2. Integers -/

/-- The letter after a zero that may announce a base. -/
def baseLetter? (base : Nat) : Option Char :=
  if base == 2 then some 'b' else if base == 8 then some 'o' else if base == 16 then some 'x' else none

/-- The digits without the zero and the letter that announce their base. -/
def dropBase (base : Nat) (s : List Char) : List Char :=
  match s with
  | '0' :: c :: t => if baseLetter? base == some c.toLower then t else s
  | _ => s

/-- The most digits that a decimal integer may have when it is read or written. -/
def maxDigits : Nat := 4300

/-- Is there a limit on the digits of a base? Those that are powers of two have none. -/
def isLimited (base : Nat) : Bool :=
  !(base == 2 || base == 8 || base == 16)

/-- The integer that a numeral in a base denotes. -/
def integer? (base : Nat) (s : List Char) : Option Int :=
  let t := plainNumeral s
  let digits := dropBase base (dropSign t)
  if isLimited base && maxDigits < digits.length then none
  else (readNat? base digits).map fun n => if isNegative t then -(n : Int) else (n : Int)

/-- Can the integer be written in decimal? -/
def isWritable (n : Int) : Bool :=
  n.natAbs < Nat.pow 10 maxDigits

/-! ## 3. Fractions -/

/-- The number of 64 bits that a numeral denotes. -/
def float? (s : List Char) : Option Binary64 :=
  Binary64.ofText? (plainNumeral s)

/-! ## 4. Complex numbers -/

/-- The rest of the text after an exponent, or the text if it does not start with one. -/
def dropExponent (s : List Char) : List Char :=
  match s with
  | c :: t =>
    let digits := dropSign t
    if c.toLower == 'e' && digits.head?.any isDigit then digits.dropWhile isDigit else s
  | [] => []

/-- The words for numbers that have no digits; of two that start alike, the longer one comes
first. -/
def numberWords : List (List Char) :=
  ["infinity".toList, "inf".toList, "nan".toList]

/-- The rest of the text after an unsigned number that it starts with. -/
def afterMagnitude? (s : List Char) : Option (List Char) :=
  match numberWords.find? fun word => word.isPrefixOf (s.map Char.toLower) with
  | some word => some (s.drop word.length)
  | none =>
    let rest := s.dropWhile isDigit
    let fraction := if rest.head? == some '.' then rest.tail else rest
    let after := fraction.dropWhile isDigit
    if s.head?.any isDigit || (s.head? == some '.' && fraction.head?.any isDigit) then
      some (dropExponent (if rest.head? == some '.' then after else rest))
    else none

/-- The text without the low lines between digits; none if one stands elsewhere. -/
def dropSpacing? : List Char → Option (List Char)
  | [] => some []
  | c :: '_' :: d :: s =>
    if isDigit c && isDigit d then (dropSpacing? (d :: s)).map (c :: ·) else none
  | c :: s => if c == '_' then none else (dropSpacing? s).map (c :: ·)

/-- The letter of the imaginary unit, and nothing after it. -/
def isUnit (s : List Char) : Bool :=
  s == ['j'] || s == ['J']

/-- What follows the real part of a number: nothing, the unit, or a signed imaginary part. -/
def isAfterReal (s : List Char) : Bool :=
  match s with
  | [] => true
  | c :: t =>
    if c == '+' || c == '-' then isUnit ((afterMagnitude? t).getD t) else isUnit s

/-- Is the text a numeral of a real, an imaginary or a complex number? -/
def isComplex (s : List Char) : Bool :=
  match dropSpacing? (plainNumeral s) with
  | none => false
  | some t =>
    match afterMagnitude? (dropSign t) with
    | some rest => isAfterReal rest
    | none => isUnit (dropSign t)

/-- Is the text a numeral of an integer with a letter for its base? -/
def isBased (s : List Char) : Bool :=
  let digits := dropSign (plainNumeral s)
  [2, 8, 16].any fun base => (dropBase base digits).length < digits.length && (integer? base s).isSome

end StaticSite.Number
