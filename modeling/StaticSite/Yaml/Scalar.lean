/-
StaticSite.Yaml.Scalar — what the text of a scalar stands for.

The text of a plain scalar decides its type: a truth value, null, a number, a
date or a moment, if it is written like one, and otherwise a string. A tag
asks for a type, and the text has to be readable as that type. The first
version knows more words for truth values, counts a number with a zero in
front in eights, and has numbers in sixties, with colons between the
places.
-/
import StaticSite.Yaml.Error
import StaticSite.Yaml.Setting
import StaticSite.Value.Basic
import StaticSite.Number.Numeral
import StaticSite.Text.Lines
import StaticSite.Text.Lowercase
import StaticSite.Text.Base64

namespace StaticSite.Yaml

open StaticSite.Number StaticSite.Text

/-! ## 1. Numbers as they are written -/

/-- A decimal digit or a low line. -/
def isSpaced (c : Char) : Bool :=
  isDigit c || c == '_'

/-- Nothing but characters of a class, and at least one. -/
def allOf (p : Char → Bool) (s : List Char) : Bool :=
  !s.isEmpty && s.all p

/-- A digit of a base or a low line. -/
def isSpacedIn (base : Nat) (c : Char) : Bool :=
  c == '_' || (digitValue c).any (· < base)

/-- A digit, and after it digits and low lines. -/
def isDigitsAfterDigit (s : List Char) : Bool :=
  (s.head?.any isDigit) && s.all isSpaced

/-- Does the text start with a digit that is not zero? -/
def startsPositive (s : List Char) : Bool :=
  s.head?.any fun c => isDigit c && c != '0'

/-- A place of a number in sixties after the first one: a digit, or two up to fifty-nine. -/
def isSixtiesPlace : List Char → Bool
  | [c] => isDigit c
  | [c, d] => '0' ≤ c && c ≤ '5' && isDigit d
  | _ => false

/-- Are these the places of a number in sixties, of which there are two at least? -/
def isSixties (s : List Char) : Bool :=
  match splitOn (· == ':') s with
  | first :: place :: places => isDigitsAfterDigit first && (place :: places).all isSixtiesPlace
  | _ => false

/-- Is the unsigned text a number of a base that a letter after a zero names? -/
def isBaseInteger (s : List Char) : Bool :=
  match s with
  | '0' :: 'b' :: t => allOf (isSpacedIn 2) t
  | '0' :: 'x' :: t => allOf (isSpacedIn 16) t
  | _ => false

/-- Is the unsigned text written like an integer? -/
def isUnsignedInteger (version : Version) (s : List Char) : Bool :=
  isBaseInteger s ||
    match version with
    | .v11 =>
      allOf (isSpacedIn 8) s || (startsPositive s && (s.all isSpaced || isSixties s))
    | .v12 =>
      match s with
      | '0' :: 'o' :: t => allOf (isSpacedIn 8) t
      | _ => allOf isSpaced s

/-- Is the text written like an integer? Without a sign it starts with a digit. -/
def isInteger (version : Version) (s : List Char) : Bool :=
  isUnsignedInteger version (dropSign s) && s.head? != some '_'

/-- Is the text an exponent: a letter, a sign that may be needed, and digits? -/
def isExponent (signed : Bool) : List Char → Bool
  | c :: s =>
    (c == 'e' || c == 'E') && allOf isDigit (dropSign s) &&
      (!signed || s.head? == some '+' || isNegative s)
  | [] => false

/-- The three spellings of a word: small letters, a capital in front, or all capitals. -/
def isWord (small capital large : String) (s : List Char) : Bool :=
  s = small.toList || s = capital.toList || s = large.toList

/-- Is the text written like a number in sixties with a point? -/
def isSixtiesFraction (s : List Char) : Bool :=
  match s.dropWhile (· != '.') with
  | _ :: fraction => isSixties (s.takeWhile (· != '.')) && fraction.all isSpaced
  | [] => false

/-- Is the text, whose sign has been dropped, written like a number with a point or an
exponent? -/
def isUnsignedDecimal (s : List Char) : Bool :=
  let whole := s.takeWhile isSpaced
  let rest := s.dropWhile isSpaced
  isDigitsAfterDigit whole &&
    match rest with
    | '.' :: r =>
      let tail := r.dropWhile isSpaced
      tail.isEmpty || isExponent false tail
    | _ => isExponent false rest

/-- Is the text, whose sign may have been dropped, written like a number that starts with its
point? -/
def isPointDecimal (s : List Char) : Bool :=
  match s with
  | '.' :: r =>
    let tail := r.dropWhile isSpaced
    !(r.takeWhile isSpaced).isEmpty && (tail.isEmpty || isExponent true tail)
  | _ => false

/-- Is the text written like a number with a point or an exponent? In the first version, one
that starts with its point has no sign. -/
def isDecimal (version : Version) (s : List Char) : Bool :=
  let t := dropSign s
  isWord ".nan" ".NaN" ".NAN" s || isWord ".inf" ".Inf" ".INF" t || isUnsignedDecimal t ||
    match version with
    | .v11 => isPointDecimal s || isSixtiesFraction t
    | .v12 => isPointDecimal t

/-! ## 2. Numbers -/

/-- The text without low lines. -/
def withoutSpacing (s : List Char) : List Char :=
  s.filter (· != '_')

/-- What the places of a number in sixties come to, the first one being the highest. -/
def sixties (places : List Int) : Int :=
  places.foldl (fun n place => n * 60 + place) 0

/-- The integer that a text without a sign is read as. -/
def readUnsigned (version : Version) (s : List Char) : Except Error Int :=
  let checked (n : Option Int) : Except Error Int :=
    match n with
    | some n => .ok n
    | none => .error .badNumber
  match version, s with
  | _, '0' :: 'b' :: r => checked (integer? 2 r)
  | _, '0' :: 'x' :: r => checked (integer? 16 r)
  | _, '0' :: 'o' :: r => checked (integer? 8 r)
  | .v12, s => checked (integer? 10 s)
  | .v11, [] => .error .emptyNumber
  | .v11, ['0'] => .ok 0
  | .v11, '0' :: r => checked (integer? 8 ('0' :: r))
  | .v11, s => checked (((splitOn (· == ':') s).mapM (integer? 10)).map sixties)

/-- The integer that a text is read as. -/
def readInteger (version : Version) (s : List Char) : Except Error Int :=
  let t := withoutSpacing s
  if t.isEmpty then .error .emptyNumber
  else (readUnsigned version (dropSign t)).map fun n => if isNegative t then -n else n

/-- What the places of a number in sixties come to. They are added up from the lowest one. -/
def sixtiesFloat (places : List Binary64) : Binary64 :=
  (places.reverse.foldl (fun (total, weight) place =>
    (Binary64.add total (place.mul (.ofNat weight)), weight * 60)) (Binary64.zero false, 1)).1

/-- The number with a point or an exponent that a text is read as. -/
def readFloat (version : Version) (s : List Char) : Except Error Binary64 :=
  let t := (withoutSpacing s).map Char.toLower
  let magnitude : Option Binary64 :=
    match dropSign t with
    | ['.', 'i', 'n', 'f'] => some (.infinite false)
    | ['.', 'n', 'a', 'n'] => some .nan
    | r =>
      if version == .v11 && r.contains ':' then
        ((splitOn (· == ':') r).mapM float?).map sixtiesFloat
      else float? r
  match magnitude with
  | some x => .ok (if isNegative t then x.negate else x)
  | none => .error (if t.isEmpty then .emptyNumber else .badNumber)

/-! ## 3. Dates and moments -/

/-- The time of day as it is written: hour, minute, second, digits after the point, and the
name of the offset. -/
structure ClockText where
  hour : List Char
  minute : List Char
  second : List Char
  fraction : List Char
  offset : List Char
  deriving DecidableEq, Repr

/-- A date, and perhaps a time of day, as they are written. -/
structure StampText where
  year : List Char
  month : List Char
  day : List Char
  clock : Option ClockText
  deriving DecidableEq, Repr

/-- The digits that the text starts with, no more than a number, and the rest. -/
def takeDigits (most : Nat) (s : List Char) : List Char × List Char :=
  let digits := (s.take most).takeWhile isDigit
  (digits, s.drop digits.length)

/-- Splits an offset into hours and minutes, if it is written like one. -/
def offsetParts? (s : List Char) : Option (List Char × List Char) :=
  match s with
  | c :: t =>
    if c == '+' || c == '-' then
      let (hours, rest) := takeDigits 2 t
      match rest with
      | [] => if hours.isEmpty then none else some (hours, [])
      | ':' :: r =>
        let (minutes, rest) := takeDigits 2 r
        if hours.isEmpty || minutes.length != 2 || !rest.isEmpty then none
        else some (hours, minutes)
      | _ => none
    else none
  | [] => none

/-- Is the text the name of an offset, or empty? -/
def isOffsetText (s : List Char) : Bool :=
  s.isEmpty || s == ['Z'] || (offsetParts? s).isSome

/-- A space or a tab. -/
def isSpaceOrTab (c : Char) : Bool :=
  c == ' ' || c == '\t'

/-- The time of day that the text is written like. -/
def clockText? (s : List Char) : Option ClockText :=
  let (hour, rest) := takeDigits 2 s
  match rest with
  | ':' :: r =>
    let (minute, rest) := takeDigits 2 r
    match rest with
    | ':' :: r =>
      let (second, rest) := takeDigits 2 r
      let (fraction, rest) :=
        match rest with
        | '.' :: r => (r.takeWhile isDigit, r.dropWhile isDigit)
        | r => ([], r)
      let offset := rest.dropWhile isSpaceOrTab
      let complete := !hour.isEmpty && minute.length == 2 && second.length == 2
      if complete && isOffsetText offset && (!offset.isEmpty || rest.isEmpty) then
        some ⟨hour, minute, second, fraction, offset⟩
      else none
    | _ => none
  | _ => none

/-- A text without the line feed at its end, which is not looked at when a type is found. -/
def dropLineFeed (s : List Char) : List Char :=
  if s.getLast? == some '\n' then s.dropLast else s

/-- The date, or the date and the time of day, that the text is written like. -/
def stampText? (s : List Char) : Option StampText :=
  let (year, rest) := takeDigits 4 (dropLineFeed s)
  match rest with
  | '-' :: r =>
    let (month, rest) := takeDigits 2 r
    match rest with
    | '-' :: r =>
      let (day, rest) := takeDigits 2 r
      if year.length != 4 || month.isEmpty || day.isEmpty then none
      else
        match rest with
        | [] => some ⟨year, month, day, none⟩
        | c :: r =>
          if c == 'T' || c == 't' then
            (clockText? r).map fun clock => ⟨year, month, day, some clock⟩
          else if isSpaceOrTab c then
            (clockText? (r.dropWhile isSpaceOrTab)).map fun clock =>
              ⟨year, month, day, some clock⟩
          else none
    | _ => none
  | _ => none

/-- Is a plain scalar a date or a moment? A date alone needs two digits for month and day. -/
def isStamp (s : List Char) : Bool :=
  match stampText? s with
  | none => false
  | some stamp => stamp.clock.isSome || s.length == 10

/-- The value of a run of digits. -/
def numeral (s : List Char) : Nat :=
  (readNat? 10 s).getD 0

/-- The microseconds that the digits after the point give, rounded at the seventh. -/
def microseconds (fraction : List Char) : Nat :=
  let six := fraction.take 6
  let n := numeral (six ++ List.replicate (6 - six.length) '0')
  match fraction.drop 6 with
  | [] => n
  | c :: _ => if '4' < c then n + 1 else n

/-- The offset with a name; an empty name is none. -/
def offsetOf (s : List Char) : Option Offset :=
  match s with
  | [] => none
  | _ =>
    match offsetParts? s with
    | none => some ⟨0, s⟩
    | some (hours, minutes) =>
      let n : Int := (numeral hours * 60 + numeral minutes : Nat)
      some ⟨if isNegative s then -n else n, s⟩

/-- The date or the moment that a text gives. -/
def StampText.value (stamp : StampText) : Except Error Value :=
  match Date.of? (numeral stamp.year) (numeral stamp.month) (numeral stamp.day) with
  | none => .error .badDate
  | some date =>
    match stamp.clock with
    | none => .ok (.date date)
    | some clock =>
      let micro := microseconds clock.fraction
      let carry := 999999 < micro
      match Moment.of? date (numeral clock.hour) (numeral clock.minute) (numeral clock.second)
          (if carry then 0 else micro) (offsetOf clock.offset) with
      | none => .error .badDate
      | some moment =>
        match if carry then moment.nextSecond? else some moment with
        | none => .error .lateDate
        | some moment => .ok (.moment moment)

/-! ## 4. Scalars -/

/-- What a scalar stands for: a value, or one of the two signs that mean something as keys. -/
inductive Meaning where
  | value (v : Value)
  | merge
  | equals

/-- A text as a string. -/
def stringValue (s : List Char) : Value :=
  .string (String.ofList s)

/-- A word for true, as plain scalars have it. -/
def isTrueWord (version : Version) (s : List Char) : Bool :=
  isWord "true" "True" "TRUE" s ||
    (version == .v11 && (isWord "yes" "Yes" "YES" s || isWord "on" "On" "ON" s ||
      s = ['y'] || s = ['Y']))

/-- A word for false, as plain scalars have it. -/
def isFalseWord (version : Version) (s : List Char) : Bool :=
  isWord "false" "False" "FALSE" s ||
    (version == .v11 && (isWord "no" "No" "NO" s || isWord "off" "Off" "OFF" s ||
      s = ['n'] || s = ['N']))

/-- The truth value that a word stands for. -/
def truthOf (s : List Char) : Except Error Value :=
  let word := lower s
  if ["y", "yes", "true", "on"].any fun w => word = w.toList then .ok (.bool true)
  else if ["n", "no", "false", "off"].any fun w => word = w.toList then .ok (.bool false)
  else .error (.badTruth (String.ofList word))

/-- What a plain scalar stands for. Its type is found without the line feed at its end. -/
def plainMeaning (version : Version) (s : List Char) : Except Error Meaning :=
  let t := dropLineFeed s
  if s.isEmpty || t = ['~'] || isWord "null" "Null" "NULL" t then .ok (.value .null)
  else if isTrueWord version t || isFalseWord version t then (truthOf s).map .value
  else if t = ['<', '<'] then .ok .merge
  else if t = ['='] then .ok .equals
  else if isDecimal version t then (readFloat version s).map fun x => .value (.float x)
  else if isInteger version t then (readInteger version s).map fun n => .value (.int n)
  else if isStamp t then
    match stampText? s with
    | some stamp => stamp.value.map .value
    | none => .error .badDate
  else .ok (.value (stringValue s))

/-- The bytes that a text spells; it is one of ASCII. -/
def readBytes (s : List Char) : Except Error Value :=
  match if s.all (·.toNat < 128) then decodeBase64? s else none with
  | some content => .ok (.bytes content)
  | none => .error .badBytes

end StaticSite.Yaml
