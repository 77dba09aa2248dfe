/-
StaticSite.Number.Digits — numerals in a base, read and written.
-/

namespace StaticSite.Number

/-- The value of a digit, letters standing for ten and more. -/
def digitValue (c : Char) : Option Nat :=
  if '0' ≤ c && c ≤ '9' then some (c.toNat - 48)
  else if 'a' ≤ c && c ≤ 'f' then some (c.toNat - 87)
  else if 'A' ≤ c && c ≤ 'F' then some (c.toNat - 55)
  else none

/-- A decimal digit of ASCII. -/
def isDigit (c : Char) : Bool :=
  '0' ≤ c && c ≤ '9'

/-- Reads the digits from the left onto a value already read. -/
def readDigitsFrom (base : Nat) (acc : Nat) : List Char → Option Nat
  | [] => some acc
  | c :: s =>
    match digitValue c with
    | some d => if d < base then readDigitsFrom base (acc * base + d) s else none
    | none => none

/-- The value of a numeral of at least one digit. -/
def readNat? (base : Nat) (s : List Char) : Option Nat :=
  if s.isEmpty then none else readDigitsFrom base 0 s

/-- The decimal numeral of a number. -/
def natText (n : Nat) : List Char :=
  Nat.toDigits 10 n

/-- The decimal numeral of an integer. -/
def intText : Int → List Char
  | .ofNat n => natText n
  | .negSucc n => '-' :: natText (n + 1)

/-- The decimal numeral of a number, filled with zeros on the left up to a width. -/
def paddedText (width n : Nat) : List Char :=
  let digits := natText n
  List.replicate (width - digits.length) '0' ++ digits

end StaticSite.Number
