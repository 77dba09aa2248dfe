/-
StaticSite.Yaml.Quoted — scalars in quotes.

Between single quotes, a quote is written twice. Between double quotes, a
backslash starts an escape. In both, blanks at the end of a line are
dropped and line ends are folded as in a plain scalar; an escaped line end
is dropped.
-/
import StaticSite.Yaml.Plain
import StaticSite.Yaml.Error
import StaticSite.Number.Digits

namespace StaticSite.Yaml

open StaticSite.Number

/-! ## 1. Escapes -/

/-- The character that a one-letter escape stands for. -/
def shortEscape? (c : Char) : Option Char :=
  match c with
  | '0' => some '\x00'
  | 'a' => some '\x07'
  | 'b' => some '\x08'
  | 't' => some '\t'
  | '\t' => some '\t'
  | 'n' => some '\n'
  | 'v' => some '\x0b'
  | 'f' => some '\x0c'
  | 'r' => some '\r'
  | 'e' => some '\x1b'
  | ' ' => some ' '
  | '"' => some '"'
  | '/' => some '/'
  | '\\' => some '\\'
  | 'N' => some '\x85'
  | '_' => some '\xa0'
  | 'L' => some '\u2028'
  | 'P' => some '\u2029'
  | _ => none

/-- The number of digits of an escape that gives a number. -/
def escapeWidth? (c : Char) : Option Nat :=
  match c with
  | 'x' => some 2
  | 'u' => some 4
  | 'U' => some 8
  | _ => none

/-- The number that the text starts with, written in so many hexadecimal digits. -/
def hexNumber? (width : Nat) (s : List Char) : Option Nat :=
  let digits := s.take width
  if digits.length == width then readNat? 16 digits else none

/-- The first halves of surrogate pairs. -/
def isHighSurrogate (n : Nat) : Bool :=
  0xD800 ≤ n && n ≤ 0xDBFF

/-- The second halves of surrogate pairs. -/
def isLowSurrogate (n : Nat) : Bool :=
  0xDC00 ≤ n && n ≤ 0xDFFF

/-- The second half of a surrogate pair, if its escape starts the text. -/
def lowSurrogate? : List Char → Option Nat
  | '\\' :: 'u' :: s =>
    match hexNumber? 4 s with
    | some n => if isLowSurrogate n then some n else none
    | none => none
  | _ => none

/-- The character for an escaped number of a width, and the length of the escape after the
backslash, where the text goes on after the digits. -/
def numberedChar (width n : Nat) (after : List Char) : Except Error (Char × Nat) :=
  if isHighSurrogate n then
    match lowSurrogate? after with
    | some low => .ok (Char.ofNat (0x10000 + (n - 0xD800) * 0x400 + (low - 0xDC00)), width + 7)
    | none => .error .badCharacter
  else if h : n.isValidChar then .ok (Char.ofNatAux n h, width + 1)
  else .error .badCharacter

/-- The character for the escape that starts after the backslash, and its length there. -/
def readEscape : List Char → Except Error (Char × Nat)
  | [] => .error .malformed
  | c :: s =>
    match shortEscape? c with
    | some d => .ok (d, 1)
    | none =>
      match escapeWidth? c with
      | none => .error .malformed
      | some width =>
        match hexNumber? width s with
        | none => .error .malformed
        | some n => numberedChar width n (s.drop width)

/-! ## 2. Blanks inside quotes -/

/-- The blanks that have been passed and not yet been read as text: spaces and tabs on one
line, or line ends. Both lists are reversed. A first line end that was escaped is dropped. -/
inductive Pending where
  | blanks (passed : List Char)
  | lines (first : Option Char) (more : List Char)
  deriving DecidableEq, Repr

namespace Pending

/-- No blanks. -/
def none : Pending :=
  .blanks []

/-- How the blanks are read if text follows on this line. -/
def text : Pending → List Char
  | .blanks passed => passed.reverse
  | .lines Option.none more => more.reverse
  | .lines (some first) more => foldedLines first more.reverse

/-- One more space or tab; at the start of a line it does not count. -/
def blank (c : Char) : Pending → Pending
  | .blanks passed => .blanks (c :: passed)
  | .lines first more => .lines first more

/-- One more line end, before which blanks do not count. -/
def lineEnd (c : Char) : Pending → Pending
  | .blanks _ => .lines (some (readBreak c)) []
  | .lines first more => .lines first (readBreak c :: more)

end Pending

/-! ## 3. The scalar -/

/-- Text in front of what is read from the rest. -/
def before (text : List Char) : Except Error (List Char × Cursor) → Except Error (List Char × Cursor)
  | .ok (more, stop) => .ok (text ++ more, stop)
  | .error e => .error e

/-- Reads the inside of quotes and the closing quote. The first number counts the characters
to be passed over, as they belong to an escape. -/
def readQuotedFrom (double : Bool) : Nat → Pending → Nat → List Char →
    Except Error (List Char × Cursor)
  | _, _, _, [] => .error .malformed
  | passed + 1, pending, column, c :: s =>
    readQuotedFrom double passed pending (columnAfter column c) s
  | 0, pending, column, c :: s =>
    if c == ' ' || c == '\t' then
      readQuotedFrom double 0 (pending.blank c) (column + 1) s
    else if isBreak c then
      if atMarker ⟨s, 0⟩ then .error .malformed
      else readQuotedFrom double 0 (pending.lineEnd c) (columnAfter column c) s
    else if double && c == '\\' then
      if (s.head?.map isBreak).getD false then
        if atMarker ⟨s.tail, 0⟩ then .error .malformed
        else before pending.text (readQuotedFrom double 1 (.lines none []) (column + 1) s)
      else
        match readEscape s with
        | .error e => .error e
        | .ok (d, n) =>
          before (pending.text ++ [d]) (readQuotedFrom double n .none (column + 1) s)
    else if c == (if double then '"' else '\'') then
      if !double && s.head? == some '\'' then
        before (pending.text ++ ['\'']) (readQuotedFrom double 1 .none (column + 1) s)
      else .ok (pending.text, ⟨s, column + 1⟩)
    else before (pending.text ++ [c]) (readQuotedFrom double 0 .none (columnAfter column c) s)

/-- Reads a scalar in double quotes, or in single quotes, from the place of its first quote. -/
def readQuoted (double : Bool) (p : Cursor) : Except Error (List Char × Cursor) :=
  readQuotedFrom double 0 .none p.next.column p.next.rest

end StaticSite.Yaml
