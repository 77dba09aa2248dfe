/-
StaticSite.Markdown.CodeSpan — code in a line, and backslashes.

Code stands between two runs of backticks of the same length, or after a run
that is longer than all later ones. A backslash before a character that
means something takes its meaning.
-/
import StaticSite.Markdown.Pattern
import StaticSite.Markdown.Outline

namespace StaticSite.Markdown

/-! ## 1. Code -/

/-- The lengths of the runs of backticks in a text. -/
def tickRuns (s : Atoms) : List Nat :=
  ((s.splitBy fun a b => a.is '\x60' == b.is '\x60').filter (startsWith '\x60')).map List.length

/-- The length of the longest run of backticks in a text. -/
def longestTicks (s : Atoms) : Nat :=
  (tickRuns s).foldl max 0

/-- The place of the first run of exactly so many backticks. -/
def findTicks? (count : Nat) (inRun : Bool) (index : Nat) : Atoms → Option Nat
  | [] => none
  | a :: s =>
    if a.is '\x60' && !inRun && runLength '\x60' (a :: s) == count then some index
    else findTicks? count (a.is '\x60') (index + 1) s

/-- How many backticks of a run are the start of code, when no run after it is as long and the
longest has so many: all of them, or no more than a run had that has found no end. -/
def ticksInCode (before : Atoms) (longest count : Nat) : Nat :=
  ((tickRuns before).filter fun n => longest < n).foldl min count

/-- Code that starts with a run of so many backticks, from the text before it in reverse and the
text after it. The end is a run of the same length. If all later runs are shorter, it is the
first of the longest, and the run itself holds more than the start. -/
def codeAfter (before : Atoms) (count : Nat) (rest : Atoms) : Finding :=
  let longest := longestTicks rest
  let size := min count longest
  let part := if count ≤ longest then count else ticksInCode before longest count
  let ticks (n : Nat) : Atoms := List.replicate n (.char '\x60')
  match findTicks? size false 0 rest with
  | none => .skip count
  | some index =>
    let inside := ticks (part - size) ++ rest.take index
    .found (ticks (count - part) ++ [.node .code [] (codeText (trim inside))])
      (count + index + size)

/-- Code, or backslashes in front of it that stand for themselves, two for each. -/
def codeSpan : Pattern := fun _ before s =>
  if endsWith '\\' before then .nothing
  else
    let slashes := runLength '\\' s
    if slashes != 0 then
      if slashes % 2 == 0 && startsWith '\x60' (s.drop slashes) then
        .found (List.replicate (slashes / 2) (.escaped '\\')) slashes
      else .nothing
    else
      match runLength '\x60' s with
      | 0 => .nothing
      | count => codeAfter before count (s.drop count)

/-! ## 2. Backslashes -/

/-- The characters whose meaning a backslash takes. -/
def isEscapable (c : Char) : Bool :=
  "\\\x60*_\x7b\x7d[]()>#+-.!".toList.contains c

/-- A backslash and the character after it. -/
def backslash : Pattern := fun _ _ s =>
  match s with
  | .char '\\' :: .char c :: _ => if isEscapable c then .found [.escaped c] 2 else .skip 2
  | .char '\\' :: _ :: _ => .skip 2
  | _ => .nothing

end StaticSite.Markdown
