/-
StaticSite.Text.Lines — line ends, and texts joined by a separator.

`unifyLineEnds` reads a file in text mode: a carriage return, alone or
before a line feed, counts as one line feed. `joinWith` puts a
separator between the members of a list, and `splitOn` cuts a list at
its separators. `asLines` is what printing some texts gives, and
`linesWith` what somebody makes of it who looks for lines with a word in
front.
-/

namespace StaticSite.Text

/-! ## 1. Line ends -/

/-- A carriage return, with the line feed after it if there is one,
becomes a line feed. -/
def unifyLineEnds : List Char → List Char
  | [] => []
  | '\r' :: '\n' :: s => '\n' :: unifyLineEnds s
  | '\r' :: s => '\n' :: unifyLineEnds s
  | c :: s => c :: unifyLineEnds s

/-! ## 2. Joining and splitting -/

/-- The members of a list, with a separator between neighbours. -/
def joinWith (separator : String) : List String → String
  | [] => ""
  | [s] => s
  | s :: t :: rest => s ++ separator ++ joinWith separator (t :: rest)

/-- All members of a list, one after the other. -/
def concat : List String → String
  | [] => ""
  | s :: rest => s ++ concat rest

/-- The parts of a list between the occurrences of a separator; there is
always one part more than there are separators. -/
def splitOn {α : Type} (isSeparator : α → Bool) : List α → List (List α)
  | [] => [[]]
  | a :: s =>
    match splitOn isSeparator s with
    | [] => [[a]]
    | part :: parts =>
      if isSeparator a then [] :: part :: parts else (a :: part) :: parts

/-- The lists of a list, with a separator between neighbours. -/
def joinLists {α : Type} (separator : List α) : List (List α) → List α
  | [] => []
  | [s] => s
  | s :: t :: rest => s ++ separator ++ joinLists separator (t :: rest)

/-! ## 3. Lines -/

/-- Some texts, each of them with a line feed after it. -/
def asLines (texts : List String) : String :=
  concat (texts.map fun text => text ++ "\n")

/-- The lines of a text that start with a word. What follows the last line feed is a line, too. -/
def linesWith (word text : String) : List String :=
  ((splitOn (· == '\n') text.toList).map String.ofList).filter fun line =>
    word.toList.isPrefixOf line.toList

/-! ## 4. Small facts -/

theorem splitOn_ne_nil {α : Type} (p : α → Bool) (s : List α) : splitOn p s ≠ [] := by
  cases s with
  | nil => simp [splitOn]
  | cons a s =>
    unfold splitOn
    split
    · simp
    · split <;> simp

end StaticSite.Text
