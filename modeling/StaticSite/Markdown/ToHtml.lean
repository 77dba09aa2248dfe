/-
StaticSite.Markdown.ToHtml — Markdown as markup.

Blank text gives nothing. A text of one paragraph can also be had without
the paragraph around it, for use in a line.
-/
import StaticSite.Markdown.Layout
import StaticSite.Markdown.Source

namespace StaticSite.Markdown

open StaticSite.Text

/-- The document of a text. -/
def read (s : List Char) : Atoms :=
  documentOf (outlineOf (extractRaw (normalized s)))

/-- A text as markup. -/
def toHtml (text : String) : String :=
  let s := Text.trim text.toList
  if s.isEmpty then "" else String.ofList (Text.trim (render (lay (read s))))

/-- Does the text hold another one somewhere? -/
def holds (part : List Char) : List Char → Bool
  | [] => part.isEmpty
  | c :: s => part.isPrefixOf (c :: s) || holds part s

/-- What stands in the paragraph that is all of the markup, if no other one starts in it. -/
def loneParagraph? (s : List Char) : Option (List Char) :=
  let start := "<p>".toList
  let stop := "</p>".toList
  if start.isPrefixOf s && stop.isSuffixOf s && start.length + stop.length ≤ s.length then
    let inside := (s.drop start.length).take (s.length - start.length - stop.length)
    if holds start inside then none else some inside
  else none

/-- A text as markup for use in a line: a lone paragraph is taken off. -/
def toInlineHtml (text : String) : String :=
  let html := toHtml text
  match loneParagraph? html.toList with
  | some inside => String.ofList inside
  | none => html

end StaticSite.Markdown
