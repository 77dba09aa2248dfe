/-
StaticSite.Number.Binary64 — floating-point numbers of 64 bits.

A finite number is ± mantissa · 2^exponent, exactly. Decimals are rounded
to the nearest such number, a tie to the even mantissa (`ofDecimal`). The
text of a number is the shortest decimal that rounds back to it, and of
those the nearest one (`shortest`); it is positional between 10^-4 and
10^16 and has an exponent of at least two digits elsewhere (`text`).
-/
import StaticSite.Number.Digits

namespace StaticSite.Number

/-! ## 1. The numbers -/

/-- A number of 64 bits. Finite numbers are kept with a mantissa below 2^53
that is at least 2^52 unless the exponent is the least one, -1074. -/
inductive Binary64 where
  | finite (negative : Bool) (mantissa : Nat) (exponent : Int)
  | infinite (negative : Bool)
  | nan
  deriving DecidableEq, Repr

namespace Binary64

/-- Zero with a sign. -/
def zero (negative : Bool) : Binary64 :=
  .finite negative 0 (-1074)

/-- The number with its sign turned. -/
def negate : Binary64 → Binary64
  | .finite s m e => .finite (!s) m e
  | .infinite s => .infinite (!s)
  | .nan => .nan

/-- Is the number a zero of either sign? -/
def isZero : Binary64 → Bool
  | .finite _ m _ => m == 0
  | _ => false

/-- The fraction `mantissa · 2^exponent` as numerator and denominator. -/
def ratio (mantissa : Nat) (exponent : Int) : Nat × Nat :=
  match exponent with
  | .ofNat k => (mantissa * Nat.pow 2 k, 1)
  | .negSucc k => (mantissa, Nat.pow 2 (k + 1))

/-- Is the number equal to an integer? -/
def eqInt (x : Binary64) (n : Int) : Bool :=
  match x with
  | .finite s m e =>
    let (num, den) := ratio m e
    let magnitude := num == n.natAbs * den
    magnitude && (m == 0 || s == decide (n < 0))
  | _ => false

/-- Equality of numbers: the two zeros are equal, and what is no number equals nothing. -/
def eqNumber (x y : Binary64) : Bool :=
  (x.isZero && y.isZero) || (decide (x = y) && decide (x ≠ .nan))

/-! ## 2. Rounding -/

/-- The quotient rounded to the nearest integer, a tie to the even one. -/
def roundHalfEven (num den : Nat) : Nat :=
  let q := num / den
  let r := num % den
  if 2 * r < den then q
  else if den < 2 * r then q + 1
  else if q % 2 == 0 then q else q + 1

/-- `num / den · 2^-exponent` as numerator and denominator. -/
def scaleDown (num den : Nat) : Int → Nat × Nat
  | .ofNat k => (num, den * Nat.pow 2 k)
  | .negSucc k => (num * Nat.pow 2 (k + 1), den)

/-- The number nearest to a positive fraction. -/
def ofRatio (negative : Bool) (num den : Nat) : Binary64 :=
  if num == 0 then zero negative
  else
    let k : Int := (Nat.log2 num : Int) - (Nat.log2 den : Int)
    let (a, b) := scaleDown num den k
    let top : Int := if a < b then k - 1 else k
    let exponent : Int := max (top - 52) (-1074)
    let (a, b) := scaleDown num den exponent
    let m := roundHalfEven a b
    let (m, exponent) := if m == Nat.pow 2 53 then (Nat.pow 2 52, exponent + 1) else (m, exponent)
    if 971 < exponent then .infinite negative else .finite negative m exponent

/-- The number nearest to `digits · 10^exponent`. -/
def ofDecimal (negative : Bool) (digits : Nat) (exponent : Int) : Binary64 :=
  if digits == 0 then zero negative
  else
    let magnitude : Int := (natText digits).length + exponent
    if 310 < magnitude then .infinite negative
    else if magnitude < -330 then zero negative
    else
      match exponent with
      | .ofNat k => ofRatio negative (digits * Nat.pow 10 k) 1
      | .negSucc k => ofRatio negative digits (Nat.pow 10 (k + 1))

/-! ## 3. Sums and products -/

/-- Is the number below zero, or the zero with a minus sign? -/
def isNegative : Binary64 → Bool
  | .finite s _ _ => s
  | .infinite s => s
  | .nan => false

/-- The number nearest to a natural number. -/
def ofNat (n : Nat) : Binary64 :=
  ofRatio false n 1

/-- The number nearest to `units · 2^exponent`; a zero gets the sign that is given. -/
def ofUnits (zeroNegative : Bool) (units : Int) (exponent : Int) : Binary64 :=
  if units == 0 then zero zeroNegative
  else
    let (num, den) := ratio units.natAbs exponent
    ofRatio (decide (units < 0)) num den

/-- A mantissa with its sign, counted in steps of a smaller exponent. -/
def unitsAt (negative : Bool) (mantissa : Nat) (exponent least : Int) : Int :=
  let magnitude : Int := mantissa * Nat.pow 2 (exponent - least).toNat
  if negative then -magnitude else magnitude

/-- The sum, rounded to the nearest number. -/
def add : Binary64 → Binary64 → Binary64
  | .finite s m e, .finite t n f =>
    let least := min e f
    ofUnits (s && t) (unitsAt s m e least + unitsAt t n f least) least
  | .infinite s, .infinite t => if s == t then .infinite s else .nan
  | .nan, _ => .nan
  | _, .nan => .nan
  | .infinite s, _ => .infinite s
  | _, .infinite t => .infinite t

/-- The product, rounded to the nearest number. -/
def mul (x y : Binary64) : Binary64 :=
  let negative := x.isNegative != y.isNegative
  match x, y with
  | .finite _ m e, .finite _ n f =>
    let (num, den) := ratio (m * n) (e + f)
    ofRatio negative num den
  | .nan, _ => .nan
  | _, .nan => .nan
  | _, _ => if x.isZero || y.isZero then .nan else .infinite negative

/-! ## 4. Reading -/

/-- Digits with single low lines between them. -/
def groupedDigits : List Char → Option (List Char)
  | [] => some []
  | [c] => if isDigit c then some [c] else none
  | c :: '_' :: d :: s =>
    if isDigit c && isDigit d then (groupedDigits (d :: s)).map (c :: ·) else none
  | c :: s => if isDigit c then (groupedDigits s).map (c :: ·) else none

/-- An unsigned decimal: digits with a point somewhere, then an exponent. -/
def readUnsigned (negative : Bool) (s : List Char) : Option Binary64 :=
  let isMark (c : Char) : Bool := c == 'e' || c == 'E'
  let mantissa := s.takeWhile (!isMark ·)
  let tail := s.dropWhile (!isMark ·)
  let whole := mantissa.takeWhile (· != '.')
  let fraction := (mantissa.dropWhile (· != '.')).drop 1
  let exponent : Option Int :=
    match tail with
    | [] => some 0
    | _ :: '-' :: ds =>
      if ds.isEmpty then none
      else (groupedDigits ds).bind fun ds => (readNat? 10 ds).map fun n => -(n : Int)
    | _ :: '+' :: ds =>
      if ds.isEmpty then none
      else (groupedDigits ds).bind fun ds => (readNat? 10 ds).map fun n => (n : Int)
    | _ :: ds =>
      if ds.isEmpty then none
      else (groupedDigits ds).bind fun ds => (readNat? 10 ds).map fun n => (n : Int)
  match groupedDigits whole, groupedDigits fraction, exponent with
  | some w, some f, some e =>
    if w.isEmpty && f.isEmpty then none
    else (readNat? 10 (w ++ f)).map fun n => ofDecimal negative n (e - f.length)
  | _, _, _ => none

/-- An unsigned number: a decimal, or one of the words for infinity and not-a-number
in any case. -/
def readMagnitude (negative : Bool) (s : List Char) : Option Binary64 :=
  let word := s.map Char.toLower
  if word == "inf".toList || word == "infinity".toList then some (.infinite negative)
  else if word == "nan".toList then some .nan
  else readUnsigned negative s

/-- The number that a text with an optional sign denotes. -/
def ofText? : List Char → Option Binary64
  | '-' :: s => readMagnitude true s
  | '+' :: s => readMagnitude false s
  | s => readMagnitude false s

/-! ## 5. Writing -/

/-- The number `k` with `10^(k-1) ≤ num / den < 10^k`, for fractions below one;
the first argument bounds the search. -/
def leadingZeros : Nat → Nat → Nat → Nat
  | 0, _, _ => 0
  | fuel + 1, num, den => if den ≤ num * 10 then 0 else leadingZeros fuel (num * 10) den + 1

/-- The number `k` with `10^(k-1) ≤ num / den < 10^k`. -/
def decimalPoint (num den : Nat) : Int :=
  if den ≤ num then ((natText (num / den)).length : Int)
  else -(leadingZeros 400 num den : Int)

/-- `num / den · 10^-exponent` as numerator and denominator. -/
def scaleDecimal (num den : Nat) : Int → Nat × Nat
  | .ofNat k => (num, den * Nat.pow 10 k)
  | .negSucc k => (num * Nat.pow 10 (k + 1), den)

/-- A finite number between the two points half-way to its neighbours, all as
fractions with one denominator. The end points round to the number iff its
mantissa is even. -/
structure Interval where
  low : Nat
  value : Nat
  high : Nat
  den : Nat
  closed : Bool

/-- The interval of the reals that round to a number. -/
def interval (mantissa : Nat) (exponent : Int) : Interval :=
  let narrow := mantissa == Nat.pow 2 52 && decide (-1074 < exponent)
  let (low, den) := ratio (if narrow then 4 * mantissa - 1 else 4 * mantissa - 2) (exponent - 2)
  let (value, _) := ratio (4 * mantissa) (exponent - 2)
  let (high, _) := ratio (4 * mantissa + 2) (exponent - 2)
  ⟨low, value, high, den, mantissa % 2 == 0⟩

/-- Does `candidate · 10^exponent` round to the number? -/
def Interval.has (i : Interval) (candidate : Nat) (exponent : Int) : Bool :=
  let (c, d) :=
    match exponent with
    | .ofNat k => (candidate * Nat.pow 10 k, 1)
    | .negSucc k => (candidate, Nat.pow 10 (k + 1))
  if i.closed then decide (i.low * d ≤ c * i.den) && decide (c * i.den ≤ i.high * d)
  else decide (i.low * d < c * i.den) && decide (c * i.den < i.high * d)

/-- The nearest of the number's two neighbours on the decimal grid of an
exponent that rounds to the number, if one does. -/
def Interval.onGrid (i : Interval) (exponent : Int) : Option Nat :=
  let (a, b) := scaleDecimal i.value i.den exponent
  let q := a / b
  let lowOk := i.has q exponent
  let highOk := i.has (q + 1) exponent
  if lowOk && highOk then
    some (if 2 * (a % b) < b then q else if b < 2 * (a % b) then q + 1
      else if q % 2 == 0 then q else q + 1)
  else if lowOk then some q
  else if highOk then some (q + 1)
  else none

/-- The first grid with a hit, from the given number of digits on; the first
argument bounds the search. -/
def searchGrid (i : Interval) (point : Int) : Nat → Nat → Nat × Int
  | 0, n => (0, point - n)
  | fuel + 1, n =>
    match i.onGrid (point - n) with
    | some d => (d, point - n)
    | none => searchGrid i point fuel (n + 1)

/-- The shortest decimal `digits · 10^exponent` that rounds to a number. -/
def shortest (mantissa : Nat) (exponent : Int) : Nat × Int :=
  let i := interval mantissa exponent
  searchGrid i (decimalPoint i.value i.den) 18 1

/-- Where the decimal point of a text stands and how it is written. -/
def placePoint (digits : List Char) (point : Int) : List Char :=
  if -4 < point && point ≤ 16 then
    match point with
    | .ofNat 0 => '0' :: '.' :: digits
    | .ofNat k =>
      let whole := digits.take k ++ List.replicate (k - digits.length) '0'
      let fraction := digits.drop k
      whole ++ '.' :: (if fraction.isEmpty then ['0'] else fraction)
    | .negSucc k => '0' :: '.' :: (List.replicate (k + 1) '0' ++ digits)
  else
    let head := digits.take 1
    let tail := digits.drop 1
    let power := point - 1
    head ++ (if tail.isEmpty then [] else '.' :: tail) ++
      'e' :: (if power < 0 then '-' else '+') :: paddedText 2 power.natAbs

/-- The shortest text that reads back as the number. -/
def text : Binary64 → List Char
  | .nan => "nan".toList
  | .infinite negative => if negative then "-inf".toList else "inf".toList
  | .finite negative m e =>
    let sign := if negative then ['-'] else []
    if m == 0 then sign ++ "0.0".toList
    else
      let (d, x) := shortest m e
      let digits := natText d
      let significant := dropTrailingZeros digits
      sign ++ placePoint significant ((digits.length : Int) + x)
where
  /-- The digits without the zeros at their end. -/
  dropTrailingZeros (digits : List Char) : List Char :=
    (digits.reverse.dropWhile (· == '0')).reverse

end Binary64

end StaticSite.Number
