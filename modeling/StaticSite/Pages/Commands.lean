/-
StaticSite.Pages.Commands — the command reference.

Each entry shows the inputs that run a command and what it does. A command
that a count may precede is marked. The tables follow the order in which
the user guide lists them.
-/
import StaticSite.Markup.Tags
import StaticSite.Text.Lines

namespace StaticSite.Commands

open StaticSite.Markup StaticSite.Text

/-! ## 1. Entries -/

/-- An entry of the reference: inputs, what they do, and whether a count may precede them. -/
structure CommandEntry where
  inputs : List String
  description : String
  counted : Bool
  deriving DecidableEq, Repr

/-- The mark of a command that a count may precede. -/
def countMark (counted : Bool) : String :=
  if counted then element "i" [] "count" ++ " " else ""

/-- An entry as an item of a list. -/
def renderCommand (entry : CommandEntry) : String :=
  li (countMark entry.counted ++ joinWith ", " (entry.inputs.map code) ++ " " ++ entry.description)

/-- Entries as a list, with a text between neighbours. -/
def commandList (entries : List CommandEntry) (separator : String) : String :=
  ul (joinWith separator (entries.map renderCommand))

/-! ## 2. The tables -/

/-- How a count is shown. -/
def count : String := code "N"

/-- A path in the bracket form. -/
def bracketPath : String := code "[\"foo\"][3][\"bar\"]"

/-- Where the query tool is described. -/
def queryToolUrl : String := "https://stedolan.github.io/jq/"

/-- Leaving, and help. -/
def utilCommands : List CommandEntry :=
  [⟨["q", "Ctrl-C", ":quit", ":exit"],
     "Exit jless; don't worry, it's not as hard as exiting vim.", false⟩,
   ⟨[":help", "F1"], "Show the help page.", false⟩]

/-- Moving the focus. -/
def movementCommands : List CommandEntry :=
  [⟨["j", "DownArrow", "Ctrl-n", "Enter"],
     "Move focus down one line (or " ++ count ++ " lines).", true⟩,
   ⟨["k", "UpArrow", "Ctrl-p", "Backspace"],
     "Move focus up one line (or " ++ count ++ " lines).", true⟩,
   ⟨["h", "LeftArrow"],
     "When focused on an expanded object or array, collapse the object or\n" ++
     "array. Otherwise, move focus to the parent of the focused node.\n", false⟩,
   ⟨["H"], "Focus the parent of the focused node without collapsing the focused node.", false⟩,
   ⟨["l", "RightArrow"],
     "When focused on a collapsed object or array, expand the object or array.\n" ++
     "When focused on an expanded object or array, move focus to the first\n" ++
     "child. When focused on non-container values, does nothing.\n", false⟩,
   ⟨["J"], "Move to the focused node's next sibling 1 or " ++ count ++ " times.", true⟩,
   ⟨["K"], "Move to the focused node's previous sibling 1 or " ++ count ++ " times.", true⟩,
   ⟨["w"], "Move forward until the next change in depth 1 or " ++ count ++ " times.", true⟩,
   ⟨["b"], "Move backwards until the next change in depth 1 or " ++ count ++ " times.", true⟩,
   ⟨["Ctrl-f", "PageDown"],
     "Move down by one window's height or " ++ count ++ " windows' heights.", true⟩,
   ⟨["Ctrl-b", "PageUp"],
     "Move up by one window's height or " ++ count ++ " windows' heights.", true⟩,
   ⟨["0", "^"], "Move to the first sibling of the focused node's parent.", false⟩,
   ⟨["$"], "Move to the last sibling of the focused node's parent.", false⟩,
   ⟨["Home"], "Focus the first line in the input", false⟩,
   ⟨["End"], "Focus the last line in the input", false⟩,
   ⟨["g"],
     "Focus the first line in the input if no count is given. If a count is given, focus\n" ++
     "that line number. If the line isn't visible, focus the last visible line before it.\n", true⟩,
   ⟨["G"],
     "Focus the last line in the input if no count is given. If a count is given, focus\n" ++
     "that line number, expanding any of its parent nodes if necessary.\n", true⟩,
   ⟨["c"], "Shallow collapse the focused node and all its siblings.", false⟩,
   ⟨["C"], "Deep collapse the focused node and all its siblings.", false⟩,
   ⟨["e"], "Shallow expand the focused node and all its siblings.", false⟩,
   ⟨["E"], "Deep expand the focused node and all its siblings.", false⟩,
   ⟨["Space"], "Toggle the collapsed state of the currently focused node.", false⟩]

/-- Scrolling and indentation. -/
def scrollingCommands : List CommandEntry :=
  [⟨["Ctrl-e"], "Scroll down one line (or " ++ count ++ " lines).", true⟩,
   ⟨["Ctrl-y"], "Scroll up one line (or " ++ count ++ " lines).", true⟩,
   ⟨["Ctrl-d"],
     "Scroll down by half the height of the screen (or by " ++ count ++ " lines).", true⟩,
   ⟨["Ctrl-u"],
     "Scroll up by half the height of the screen (or by " ++ count ++ " lines). For\n" ++
     "this command and " ++ code "Ctrl-d" ++ ", focus is also moved by the\n" ++
     "specified number of lines. If no count is specified, the number of\n" ++
     "lines to scroll by is recalled from previous executions.\n", true⟩,
   ⟨["zz"], "Move the focused node to the center of the screen.", false⟩,
   ⟨["zt"], "Move the focused node to the top of the screen.", false⟩,
   ⟨["zb"], "Move the focused node to the bottom of the screen.", false⟩,
   ⟨["."],
     "Scroll a truncated value one character to the right (or " ++ count ++ " characters).", true⟩,
   ⟨[","],
     "Scroll a truncated value one character to the left (or " ++ count ++ " characters).", true⟩,
   ⟨[";"],
     "Scroll a truncated value all the way to the end, or, if already at\n" ++
     "the end, back to the start.\n", false⟩,
   ⟨["&lt;"], "Decrease the indentation of every line by one (or " ++ count ++ ") tabs.", true⟩,
   ⟨["&gt;"], "Increase the indentation of every line by one (or " ++ count ++ ") tabs.", true⟩]

/-- Copying and printing. -/
def copyCommands : List CommandEntry :=
  [⟨["yy", "pp"], "Copy/print the value of the currently focused node, pretty printed", false⟩,
   ⟨["yv", "pv"],
     "Copy/print the value of the currently focused node in a \"nicely\" printed one-line format", false⟩,
   ⟨["ys", "ps"],
     "When the currently focused value is a string, copy/print the contents of the\n" ++
     "string unescaped (except control characters)\n", false⟩,
   ⟨["yk", "pk"], "Copy/print the key of the current key/value pair", false⟩,
   ⟨["yp", "pP"],
     "Copy/print the path from the root JSON element to the currently focused\n" ++
     "node, e.g., " ++ code ".foo[3].bar" ++ "\n", false⟩,
   ⟨["yb", "pb"],
     "Like " ++ code "yp" ++ ", but always uses the bracket form for object keys,\n" ++
     "e.g., " ++ bracketPath ++ ", which is useful if the environment\n" ++
     "where you'll paste the path doesn't support the " ++ code ".key" ++ " format,\n" ++
     "like in Python\n", false⟩,
   ⟨["yq", "pq"],
     "Copy/print a " ++ code (a queryToolUrl "jq") ++
     " style path that will select the currently focused\n" ++
     "node, e.g., " ++ code ".foo[].bar" ++ "\n", false⟩]

/-- Searching. -/
def searchCommands : List CommandEntry :=
  [⟨["/pattern"],
     "Search forward for the given pattern, or to its " ++ count ++ "th occurrence.\n", true⟩,
   ⟨["?pattern"],
     "Search backwards for the given pattern, or to its " ++ count ++ "th previous occurrence.\n", true⟩,
   ⟨["*"],
     "Move to the next occurrence of the object key on the focused line\n" ++
     "(or move forward " ++ count ++ " occurrences).\n", true⟩,
   ⟨["#"],
     "Move to the previous occurrence of the object key on the focused line\n" ++
     "(or move backwards " ++ count ++ " occurrences).\n", true⟩,
   ⟨["n"],
     "Move in the search direction to the next match (or forward " ++ count ++ " matches).\n", true⟩,
   ⟨["N"],
     "Move in the opposite of the search direction to the previous match\n" ++
     "(or previous " ++ count ++ " matches).\n", true⟩]

end StaticSite.Commands
