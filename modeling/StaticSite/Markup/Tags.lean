/-
StaticSite.Markup.Tags — the tags with a constructor of their own.

Pages are put together with these constructors; any other tag is written
with `Markup.element`.
-/
import StaticSite.Markup.Element

namespace StaticSite.Markup

/-- The tags that have a constructor, in catalogue order. -/
def tagCatalog : List String :=
  ["h1", "h2", "h3", "h4", "div", "span", "p", "a", "img", "ul", "li", "code", "table",
   "thead", "tbody", "th", "td", "tr"]

/-- The tag that a constructor of the given name writes, if there is such a constructor. -/
def shorthand? (name : String) : Option String :=
  if tagCatalog.contains name then some name else none

/-- A heading of the second level. -/
def h2 (body : String) : String := element "h2" [] body

/-- A heading of the second level that links can point to. -/
def h2At (anchor body : String) : String := element "h2" [("id", anchor)] body

/-- A heading of the third level that links can point to. -/
def h3At (anchor body : String) : String := element "h3" [("id", anchor)] body

/-- A heading of the fourth level. -/
def h4 (body : String) : String := element "h4" [] body

/-- A paragraph. -/
def p (body : String) : String := element "p" [] body

/-- A list of items that are written already. -/
def ul (body : String) : String := element "ul" [] body

/-- An item of a list. -/
def li (body : String) : String := element "li" [] body

/-- A piece of code. -/
def code (body : String) : String := element "code" [] body

/-- A link. -/
def a (target body : String) : String := element "a" [("href", target)] body

/-- A division with a class. -/
def divOf (cls body : String) : String := element "div" [("class", cls)] body

/-- A span with a class. -/
def spanOf (cls body : String) : String := element "span" [("class", cls)] body

/-- A picture. -/
def img (source : String) : String := emptyElement "img" [("src", source)]

/-- A picture with an identifier. -/
def imgAt (anchor source : String) : String := emptyElement "img" [("id", anchor), ("src", source)]

/-- A cell of a table. -/
def td (body : String) : String := element "td" [] body

/-- A cell of a table's head. -/
def th (body : String) : String := element "th" [] body

/-- A row of a table. -/
def tr (body : String) : String := element "tr" [] body

end StaticSite.Markup
