/-
StaticSite.Value.Text — values as text.

A string is its own text. Inside a list or a mapping it is quoted, so that
its ends can be seen. All other scalars look the same everywhere, but for
dates and moments, which name their kind inside a list or a mapping. What
holds itself is shown by dots there. An integer with too many digits has no
text, and so has nothing that holds one.
-/
import StaticSite.Value.Basic
import StaticSite.Number.Numeral
import StaticSite.Text.Blank
import StaticSite.Text.Quoted

namespace StaticSite.Value

open StaticSite.Number StaticSite.Text

/-- The members with a comma and a space between neighbours. -/
def commaList : List (List Char) → List Char
  | [] => []
  | [s] => s
  | s :: t :: rest => s ++ ',' :: ' ' :: commaList (t :: rest)

/-- A span of time as days and seconds. -/
def spanText (minutes : Int) : List Char :=
  let days := Int.fdiv minutes 1440
  let seconds := (Int.fmod minutes 1440) * 60
  let parts :=
    (if days == 0 then [] else ["days=".toList ++ intText days]) ++
    (if seconds == 0 then [] else ["seconds=".toList ++ intText seconds])
  "datetime.timedelta(".toList ++ (if parts.isEmpty then ['0'] else commaList parts) ++ [')']

/-- A date as a member of a list or a mapping. -/
def dateMember (d : Date) : List Char :=
  "datetime.date(".toList ++ commaList [natText d.year, natText d.month, natText d.day] ++ [')']

/-- A moment as a member of a list or a mapping. -/
def momentMember (m : Moment) : List Char :=
  let tail :=
    if m.micro != 0 then [natText m.second, natText m.micro]
    else if m.second != 0 then [natText m.second]
    else []
  let zone :=
    match m.offset with
    | none => []
    | some o =>
      ["tzinfo=datetime.timezone(".toList ++ commaList [spanText o.minutes, quoted o.name] ++ [')']]
  "datetime.datetime(".toList ++
    commaList ([natText m.date.year, natText m.date.month, natText m.date.day, natText m.hour,
      natText m.minute] ++ tail ++ zone) ++ [')']

/-- How a byte is written between the given quotes. -/
def quoteByte (quote : Char) (b : UInt8) : List Char :=
  if b.toNat < 127 then quoteChar quote (Char.ofNat b.toNat)
  else '\\' :: 'x' :: hexText 2 b.toNat

/-- Bytes between quotes after a letter. -/
def bytesText (content : List UInt8) : List Char :=
  let quote := quoteFor (content.map fun b => Char.ofNat b.toNat)
  'b' :: quote :: content.flatMap (quoteByte quote) ++ [quote]

/-- What is shown for a value inside itself. -/
def dots : Value → List Char
  | list _ => "[...]".toList
  | fixedList _ => "(...)".toList
  | map _ => ['\x7b', '.', '.', '.', '\x7d']
  | set _ => "set(...)".toList
  | _ => "...".toList

mutual

/-- The text of a value inside a list or a mapping, where the marks are those of the values
around it. -/
def memberText (around : List Nat) : Value → List Char
  | null => "None".toList
  | bool true => "True".toList
  | bool false => "False".toList
  | int n => intText n
  | float x => x.text
  | string s => quoted s.toList
  | bytes content => bytesText content
  | date d => dateMember d
  | moment m => momentMember m
  | list items => '[' :: (commaList (memberTexts around items) ++ [']'])
  | fixedList [item] => '(' :: (memberText around item ++ [',', ')'])
  | fixedList items => '(' :: (commaList (memberTexts around items) ++ [')'])
  | map entries => '\x7b' :: (commaList (entryTexts around entries) ++ ['\x7d'])
  | listedMap [] => "ordereddict()".toList
  | listedMap entries =>
    "ordereddict([".toList ++ commaList (pairTexts around entries) ++ [']', ')']
  | set [] => "set()".toList
  | set members => '\x7b' :: (commaList (memberTexts around members) ++ ['\x7d'])
  | tied mark v => if around.contains mark then dots v else memberText (mark :: around) v

/-- The texts of the members of a list. -/
def memberTexts (around : List Nat) : List Value → List (List Char)
  | [] => []
  | v :: rest => memberText around v :: memberTexts around rest

/-- The texts of the entries of a mapping. -/
def entryTexts (around : List Nat) : List (Value × Value) → List (List Char)
  | [] => []
  | (k, v) :: rest =>
    (memberText around k ++ ':' :: ' ' :: memberText around v) :: entryTexts around rest

/-- The texts of the entries of a mapping, each as a pair. -/
def pairTexts (around : List Nat) : List (Value × Value) → List (List Char)
  | [] => []
  | (k, v) :: rest =>
    ('(' :: commaList [memberText around k, memberText around v] ++ [')']) ::
      pairTexts around rest

end

mutual

/-- Has the value a text? -/
def hasText : Value → Bool
  | int n => isWritable n
  | list items => haveText items
  | fixedList items => haveText items
  | map entries => entriesHaveText entries
  | listedMap entries => entriesHaveText entries
  | set members => haveText members
  | tied _ v => hasText v
  | _ => true

/-- Has every member of a list a text? -/
def haveText : List Value → Bool
  | [] => true
  | v :: rest => hasText v && haveText rest

/-- Has every key and every value of the entries a text? -/
def entriesHaveText : List (Value × Value) → Bool
  | [] => true
  | (k, v) :: rest => hasText k && hasText v && entriesHaveText rest

end

/-- The text of a value as it is shown, whatever the number of its digits. -/
def shown : Value → String
  | string s => s
  | date d => String.ofList d.text
  | moment m => String.ofList m.text
  | v => String.ofList (memberText [] v)

/-- Why a value has no text. -/
inductive TextError where
  | tooManyDigits
  deriving DecidableEq, Repr

/-- The text of a value. -/
def text (v : Value) : Except TextError String :=
  if v.hasText then .ok v.shown else .error .tooManyDigits

/-- A text without the blank characters at its ends, unless nothing is left. -/
def nonBlank? (s : String) : Option String :=
  let t := strip s
  if t.isEmpty then none else some t

/-- The text of a value without the blank characters at its ends, unless it is null or
nothing is left. -/
def stripped? : Value → Except TextError (Option String)
  | null => .ok none
  | v =>
    match v.text with
    | .ok s => .ok (nonBlank? s)
    | .error e => .error e

end StaticSite.Value
