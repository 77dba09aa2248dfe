/-
StaticSite.Yaml.Cursor — places in a document.

A cursor is the rest of the text and the column it starts in. Line ends
have been unified before, so a line ends with a line feed. Three more
characters end a line as far as words and comments go, but columns go on
after them and so does the line that a key has to be on. `skipBlanks`
passes over what separates tokens and tells whether a line end was among
it.
-/
import StaticSite.Text.Lines

namespace StaticSite.Yaml

/-! ## 1. Characters -/

/-- A character that ends a line: a line feed, a next-line character or a separator. -/
def isBreak (c : Char) : Bool :=
  c == '\n' || c == '\x85' || c == '\u2028' || c == '\u2029'

/-- How a line end is read: a next-line character counts as a line feed. -/
def readBreak (c : Char) : Char :=
  if c == '\x85' then '\n' else c

/-- A character that ends a plain word: a space, a tab or a line end. -/
def isGap (c : Char) : Bool :=
  c == ' ' || c == '\t' || isBreak c

/-- Does the text end here, or go on with a gap? -/
def atGap : List Char → Bool
  | [] => true
  | c :: _ => isGap c

/-- A character that a document may hold: tab, line feed, and all that can be printed. -/
def isAllowed (c : Char) : Bool :=
  let n := c.toNat
  n == 9 || n == 10 || (0x20 ≤ n && n ≤ 0x7E) || n == 0x85 || (0xA0 ≤ n && n ≤ 0xFFFD) ||
    0x10000 ≤ n

/-- The byte order mark, which takes no column. -/
def byteOrderMark : Char := '\ufeff'

/-! ## 2. Cursors -/

/-- A place in a document: the text from there on, and its column. -/
structure Cursor where
  rest : List Char
  column : Nat
  deriving DecidableEq, Repr

/-- The column after a character. -/
def columnAfter (column : Nat) (c : Char) : Nat :=
  if c == '\n' then 0 else if c == byteOrderMark then column else column + 1

namespace Cursor

/-- The place after one character. -/
def next (p : Cursor) : Cursor :=
  match p.rest with
  | [] => p
  | c :: s => ⟨s, columnAfter p.column c⟩

/-- The place after a number of characters. -/
def skip : Nat → Cursor → Cursor
  | 0, p => p
  | n + 1, p => skip n p.next

/-- The text from one place to a later one. -/
def upTo (p q : Cursor) : List Char :=
  p.rest.take (p.rest.length - q.rest.length)

/-- The longest a key may be that is not announced by a question mark. -/
def maxKey : Nat := 1024

/-- Is there a line feed between one place and a later one? -/
def crossesLine (p q : Cursor) : Bool :=
  (p.upTo q).contains '\n'

/-- Can the text from one place to a later one be a key without a question mark? It has to
lie on one line, and to be short. -/
def canBeKey (p q : Cursor) : Bool :=
  (p.upTo q).length ≤ maxKey && !p.crossesLine q

end Cursor

/-! ## 3. Markers -/

/-- Three dashes or three dots at the start of a line, and then a gap. -/
def atMarker (p : Cursor) : Bool :=
  p.column == 0 &&
    match p.rest with
    | '-' :: '-' :: '-' :: s => atGap s
    | '.' :: '.' :: '.' :: s => atGap s
    | _ => false

/-! ## 4. Blanks between tokens -/

/-- Where a run of blanks ends, and whether the run crossed a line end. -/
structure Skipped where
  stop : Cursor
  crossed : Bool
  deriving DecidableEq, Repr

/-- Passes over spaces, comments and line ends, and over tabs if they count as blanks. -/
def skipFrom (tabs inComment crossed : Bool) (column : Nat) : List Char → Skipped
  | [] => ⟨⟨[], column⟩, crossed⟩
  | c :: s =>
    if inComment then
      skipFrom tabs (!isBreak c) (crossed || isBreak c) (columnAfter column c) s
    else if c == ' ' || (tabs && c == '\t') then skipFrom tabs false crossed (column + 1) s
    else if c == '#' then skipFrom tabs true crossed (column + 1) s
    else if isBreak c then skipFrom tabs false true (columnAfter column c) s
    else ⟨⟨c :: s, column⟩, crossed⟩

/-- Passes over the blanks at a place outside all brackets. -/
def skipBlanks (p : Cursor) : Skipped :=
  skipFrom false false false p.column p.rest

/-- Passes over the blanks at a place inside brackets, where tabs are blanks too. -/
def skipFlowBlanks (p : Cursor) : Cursor :=
  (skipFrom true false false p.column p.rest).stop

end StaticSite.Yaml
