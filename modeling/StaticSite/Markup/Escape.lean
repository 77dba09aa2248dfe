/-
StaticSite.Markup.Escape — characters that markup reserves.

Two tables of references are in use: elements are written with `&quot;`
and `&#x27;` for the quotes, the head template with `&#34;` and `&#39;`.
Both replace every reserved character, so an escaped text holds no `<`,
no `>` and neither quote.
-/

namespace StaticSite.Markup

/-- What a reserved character becomes in elements. -/
def escapeChar (c : Char) : List Char :=
  if c == '&' then "&amp;".toList
  else if c == '<' then "&lt;".toList
  else if c == '>' then "&gt;".toList
  else if c == '"' then "&quot;".toList
  else if c == '\'' then "&#x27;".toList
  else [c]

/-- The text with references for the reserved characters, as elements write them. -/
def escape (s : String) : String :=
  String.ofList (s.toList.flatMap escapeChar)

/-- What a reserved character becomes in the head template. -/
def escapeHeadChar (c : Char) : List Char :=
  if c == '&' then "&amp;".toList
  else if c == '<' then "&lt;".toList
  else if c == '>' then "&gt;".toList
  else if c == '"' then "&#34;".toList
  else if c == '\'' then "&#39;".toList
  else [c]

/-- The text with references for the reserved characters, as the head template writes
them. -/
def escapeHead (s : String) : String :=
  String.ofList (s.toList.flatMap escapeHeadChar)

/-! ## Small facts -/

theorem escape_toList (s : String) : (escape s).toList = s.toList.flatMap escapeChar := by
  simp [escape]

theorem escapeHead_toList (s : String) :
    (escapeHead s).toList = s.toList.flatMap escapeHeadChar := by
  simp [escapeHead]

end StaticSite.Markup
