/-
StaticSite.Page.CodeBlock — lines as they stand in a terminal.
-/
import StaticSite.Markup.Tags
import StaticSite.Text.Lines

namespace StaticSite

open StaticSite.Markup StaticSite.Text

/-- The prompt of a shell. -/
def shellPrompt : String := "$ "

/-- A line of a code block: empty if there is none, and after the prompt if there is one. -/
def codeLine (prompt : Option String) : Option String → String
  | none => ""
  | some line =>
    match prompt with
    | none => line
    | some sign => if sign.isEmpty then line else spanOf "prefix" sign ++ line

/-- Lines in a block of code. -/
def codeBlock (lines : List (Option String)) (prompt : Option String) : String :=
  divOf "code-block" (joinWith "\n" (lines.map (codeLine prompt)))

end StaticSite
