/-
StaticSite.Markdown.Source — a text as it is before it is read.

Line ends are unified, tabs become spaces up to the next multiple of four
columns, and a line of spaces becomes an empty line.
-/
import StaticSite.Text.Lines

namespace StaticSite.Markdown

open StaticSite.Text

/-- The distance of tab stops, which is also the indentation of a block in another. -/
def tabWidth : Nat := 4

/-- The two control characters that no text may hold. -/
def isReserved (c : Char) : Bool :=
  c == '\x02' || c == '\x03'

/-- The text with spaces for tabs, from a column on. -/
def expandTabs (column : Nat) : List Char → List Char
  | [] => []
  | c :: s =>
    if c == '\t' then
      let n := tabWidth - column % tabWidth
      List.replicate n ' ' ++ expandTabs (column + n) s
    else if c == '\n' then c :: expandTabs 0 s
    else c :: expandTabs (column + 1) s

/-- The lines after the first without the spaces of those that hold nothing else. -/
def clearLines : List (List Char) → List (List Char)
  | [] => []
  | line :: rest =>
    line :: rest.map fun line => if line.all (· == ' ') then [] else line

/-- The text as it is read, with two line ends after it. -/
def normalized (s : List Char) : List Char :=
  let s := unifyLineEnds (s.filter fun c => !isReserved c) ++ ['\n', '\n']
  joinLists ['\n'] (clearLines (splitOn (· == '\n') (expandTabs 0 s)))

end StaticSite.Markdown
