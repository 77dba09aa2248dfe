/-
StaticSite.Markdown.RawBlocks — markup that stands on lines of its own.

An element with lines of its own that starts a line, up to its end tag, and
a comment or a declaration that starts a line are taken out of the text as
they are, with empty lines around them. A comment inside an element of the
line that ends later stays in the text, as all other markup does, to be
found when the paragraphs are read; so does the start of a comment that
never ends.

The text is read twice at most: where the first reading meets markup without
an end it stops, and the second one goes on from there and takes such markup
for text.
-/
import StaticSite.Markdown.Atom
import StaticSite.Text.Lowercase

namespace StaticSite.Markdown

open StaticSite.Text

/-! ## 1. Names of elements -/

/-- The elements that stand on lines of their own. -/
def blockNames : List String :=
  ["address", "article", "aside", "blockquote", "details", "div", "dl", "fieldset", "figcaption",
    "figure", "footer", "form", "h1", "h2", "h3", "h4", "h5", "h6", "header", "hgroup", "hr",
    "main", "menu", "nav", "ol", "p", "pre", "section", "table", "ul", "canvas", "colgroup", "dd",
    "body", "dt", "group", "html", "iframe", "li", "legend", "math", "map", "noscript", "output",
    "object", "option", "progress", "script", "style", "summary", "tbody", "td", "textarea",
    "tfoot", "th", "thead", "tr", "video", "center"]

/-- A name in small letters. -/
def smallName (s : List Char) : String :=
  String.ofList (lower s)

/-- Does the element of a name stand on lines of its own? -/
def isBlockName (s : List Char) : Bool :=
  blockNames.contains (smallName (dropEndWhile (· == '/') s))

/-- Is this markup on lines of its own: a tag of such an element, a comment or a declaration? -/
def isBlockMarkup : List Char → Bool
  | '<' :: s =>
    let s := if s.head? == some '/' then s.drop 1 else s
    let name := s.takeWhile fun c => c != ' ' && c != '>'
    match name with
    | [] => false
    | c :: _ => c == '!' || c == '?' || c == '@' || c == '%' || isBlockName name
  | _ => false

/-! ## 2. Pieces of markup -/

/-- A letter of ASCII. -/
def isLetter (c : Char) : Bool :=
  ('a' ≤ c && c ≤ 'z') || ('A' ≤ c && c ≤ 'Z')

/-- A letter or a digit of ASCII. -/
def isLetterOrDigit (c : Char) : Bool :=
  isLetter c || ('0' ≤ c && c ≤ '9')

/-- A decimal digit of ASCII. -/
def isDigitChar (c : Char) : Bool :=
  '0' ≤ c && c ≤ '9'

/-- A hexadecimal digit. -/
def isHexChar (c : Char) : Bool :=
  isDigitChar c || ('a' ≤ c && c ≤ 'f') || ('A' ≤ c && c ≤ 'F')

/-- The text up to the end of the first occurrence of a mark, and what follows. -/
def throughMark? (mark : List Char) : List Char → Option (List Char × List Char)
  | [] => if mark.isEmpty then some ([], []) else none
  | c :: s =>
    if mark.isPrefixOf (c :: s) then some (mark, (c :: s).drop mark.length)
    else (throughMark? mark s).map fun (front, rest) => (c :: front, rest)

/-- A text without the blanks it starts with. -/
def skipBlank (s : List Char) : List Char :=
  s.dropWhile isBlank

/-- Does the text start with two lines of nothing but spaces? -/
def startsBlankLines (s : List Char) : Bool :=
  match s.dropWhile (· == ' ') with
  | '\n' :: r => (r.dropWhile (· == ' ')).head? == some '\n'
  | _ => false

/-- The text of a comment up to its end, and what follows. -/
def comment? : List Char → Option (List Char × List Char)
  | [] => none
  | '-' :: '-' :: '>' :: rest => some ([], rest)
  | '-' :: '-' :: '!' :: '>' :: rest => some ([], rest)
  | c :: s => (comment? s).map fun (front, rest) => (c :: front, rest)

/-- The text of characters that are no markup, up to two brackets and an angle bracket, and what
follows. Blanks may stand before the second bracket and before the angle bracket. -/
def untilBrackets? : List Char → Option (List Char × List Char)
  | [] => none
  | c :: s =>
    let here? : Option (List Char) :=
      match c, skipBlank s with
      | ']', ']' :: r =>
        match skipBlank r with
        | '>' :: rest => some rest
        | _ => none
      | _, _ => none
    match here? with
    | some rest => some ([], rest)
    | none => (untilBrackets? s).map fun (front, rest) => (c :: front, rest)

/-! ## 3. Tags -/

/-- A blank that ends the name of a tag. -/
def isTagGap (c : Char) : Bool :=
  c == ' ' || c == '\t' || c == '\n' || c == '\r' || c == '\x0c'

/-- A character of the name of a tag. -/
def isTagNameChar (c : Char) : Bool :=
  !(isTagGap c || c == '/' || c == '>' || c == '\x00')

/-- A start tag. -/
structure StartTag where
  name : List Char
  text : List Char
  selfClosing : Bool
  deriving DecidableEq, Repr

/-- What stands at a letter after an angle bracket: a tag and what follows it, or so many
characters of text. -/
inductive TagFinding where
  | tag (tag : StartTag) (rest : List Char)
  | text (count : Nat)

/-- The text after blanks and commas, from the last comma on. -/
def afterCommas (last : List Char) : List Char → List Char
  | [] => last
  | c :: s =>
    if c == ',' then afterCommas s s
    else if isBlank c then afterCommas last s
    else last

/-- The text after blanks and slashes, but for the slash that ends a tag. -/
def afterSeparators : List Char → List Char
  | [] => []
  | '/' :: '>' :: s => '/' :: '>' :: s
  | c :: s => if isBlank c || c == '/' then afterSeparators s else c :: s

/-- A character of a value without quotes. -/
def isBareChar (c : Char) : Bool :=
  !(c == '\x60' || c == '>' || isBlank c)

/-- A quote around a value. -/
def isQuote (c : Char) : Bool :=
  c == '"' || c == '\''

/-- What follows the equals signs and the value after the name of an attribute. A quote that
nothing closes belongs to no value; then the value is empty, or starts with the last one of
several signs. -/
def afterValueText? (s : List Char) : Option (List Char) :=
  let signs := (skipBlank s).takeWhile (· == '=')
  let r := (skipBlank s).dropWhile (· == '=')
  let value := skipBlank r
  let rest? : Option (List Char) :=
    match value with
    | q :: body =>
      if isQuote q then
        match body.dropWhile (· != q), (r.takeWhile isBlank).getLast? with
        | _ :: rest, _ => some rest
        | [], some gap => some (gap :: value)
        | [], none => if 2 ≤ signs.length then some (value.dropWhile isBareChar) else none
      else some (value.dropWhile isBareChar)
    | [] => some []
  if signs.isEmpty then none else rest?.map fun rest => afterCommas rest rest

/-- What follows the attribute that the text starts with. A blank, a slash or a quote has to stand
before it. -/
def afterAttributeText? (before : Char) (s : List Char) : Option (List Char) :=
  let isNamePart (c : Char) : Bool := !(isBlank c || c == '/' || c == '=' || c == '>')
  match s with
  | c :: r =>
    let starts := !(isBlank c || c == '\x60' || c == '/' || c == '>')
    if starts && (isBlank before || before == '/' || isQuote before) then
      let rest := r.dropWhile isNamePart
      some (afterSeparators ((afterValueText? rest).getD rest))
    else none
  | [] => none

/-- What follows the attributes that the text starts with; the first argument bounds their
number. -/
def afterAttributes : Nat → Char → List Char → List Char
  | 0, _, s => s
  | bound + 1, before, s =>
    match afterAttributeText? before s with
    | none => s
    | some rest =>
      afterAttributes bound (((s.take (s.length - rest.length)).getLast?).getD before) rest

/-- Looks for a start tag from its angle bracket on. Where another character stands than the end
of the tag, all before it is text, unless it is a letter or an equals sign. -/
def startTag (s : List Char) : TagFinding :=
  let r := s.drop 1
  let name := r.takeWhile fun c => isTagNameChar c && c != '\x60'
  let afterName := r.drop name.length
  let inside := afterName.dropWhile fun c => isBlank c || c == '/'
  let last (rest : List Char) : Char := ((s.take (s.length - rest.length)).getLast?).getD '<'
  let rest := skipBlank (afterAttributes inside.length (last inside) inside)
  let before := s.take (s.length - rest.length)
  let plain := rest.length == inside.length
  match rest with
  | '>' :: rest => .tag ⟨name, before ++ ['>'], plain && last ('>' :: rest) == '/'⟩ rest
  | '/' :: '>' :: rest => .tag ⟨name, before ++ ['/', '>'], true⟩ rest
  | c :: _ => .text (if isLetter c || c == '=' || c == '/' then 1 else before.length)
  | [] => .text 1

/-- The name of the end tag that the text starts with. -/
def endTagName (s : List Char) : List Char :=
  let isPlain (c : Char) : Bool := isLetterOrDigit c || ['-', '.', ':', '_'].contains c
  let plain := (s.drop 2).takeWhile isPlain
  if (skipBlank (s.drop (2 + plain.length))).head? == some '>' then plain
  else (s.drop 2).takeWhile isTagNameChar

/-- Does an end tag of this name start here, with nothing but blanks around the name? -/
def closesPlain (name : String) (s : List Char) : Bool :=
  match s with
  | '<' :: '/' :: r =>
    let r := skipBlank r
    (r.take name.length).map Char.toLower == name.toList &&
      (skipBlank (r.drop name.length)).head? == some '>'
  | _ => false

/-- The number of characters before the end tag of this name. -/
def untilClose? (name : String) : List Char → Option Nat
  | [] => none
  | c :: s => if closesPlain name (c :: s) then some 0 else (untilClose? name s).map (· + 1)

/-- Does an end tag of this name start here? -/
def isEndTagOf (name : String) (s : List Char) : Bool :=
  match s with
  | '<' :: '/' :: c :: _ => isLetter c && smallName (endTagName s) == name && s.contains '>'
  | _ => false

/-- Does an end tag of this name stand somewhere before the next empty line? -/
def closesLater (name : String) : List Char → Bool
  | [] => false
  | '\n' :: '\n' :: _ => false
  | c :: s => isEndTagOf name (c :: s) || closesLater name s

/-! ## 4. References -/

/-- The reference to a number that the text starts with, without the semicolon that may end it,
and what follows: an ampersand, a number sign and digits, and then a character that is no digit. -/
def numberReference? (s : List Char) : Option (List Char × List Char) :=
  let body := s.drop 2
  let (signs, digits, rest) :=
    match body with
    | c :: r =>
      if c == 'x' || c == 'X' then ([c], r.takeWhile isHexChar, r.dropWhile isHexChar)
      else ([], body.takeWhile isDigitChar, body.dropWhile isDigitChar)
    | [] => ([], [], [])
  match digits, rest with
  | [], _ => none
  | _, [] => none
  | _, c :: _ => if isHexChar c then none else some (signs ++ digits, rest)

/-- The reference to a named character that the text starts with, and what follows. -/
def nameReference? (s : List Char) : Option (List Char × List Char) :=
  match s with
  | '&' :: c :: r =>
    let isPart (c : Char) : Bool := isLetterOrDigit c || c == '-' || c == '.'
    match r.dropWhile isPart with
    | ';' :: rest =>
      if isLetter c then some ('&' :: c :: r.takeWhile isPart ++ [';'], rest) else none
    | _ => none
  | _ => none

/-! ## 5. The state -/

/-- What has been read: the text so far in reverse, the raw block that is open in reverse, the
names of its open elements, whether one is open, whether one ended on this line, the element
whose content is no markup, and the open elements in the text since the last empty line.

The place of the reading is a line and a column. Whatever is looked up at a place is looked up in
`source`, by the starts of lines that are known so far, the last one first. -/
structure RawState where
  text : Atoms
  block : List Char
  names : List String
  inBlock : Bool
  inTail : Bool
  plain : Option String
  around : List String
  source : List Char
  starts : List Nat
  line : Nat
  column : Nat

namespace RawState

/-- The state at the start of a text. -/
def start (source : List Char) : RawState :=
  ⟨[], [], [], false, false, none, [], source, [0], 0, 0⟩

/-! ### Places -/

/-- The state after passing over some characters. -/
def passed (st : RawState) (s : List Char) : RawState :=
  s.foldl (fun st c =>
    if c == '\n' then { st with line := st.line + 1, column := 0 }
    else { st with column := st.column + 1 }) st

/-- The starts of so many more lines, each after the next line end of the source. -/
def moreStarts (source : List Char) : Nat → List Nat → List Nat
  | 0, starts => starts
  | n + 1, starts =>
    let last := starts.headD 0
    let rest := source.drop last
    let stop :=
      if rest.contains '\n' then last + (rest.takeWhile (· != '\n')).length else source.length
    moreStarts source n ((stop + 1) :: starts)

/-- The state with the start of its line known. -/
def located (st : RawState) : RawState :=
  { st with starts := moreStarts st.source (st.line + 1 - st.starts.length) st.starts }

/-- The start of the line, if it is known. -/
def lineStart (st : RawState) : Nat :=
  (st.starts.reverse[st.line]?).getD 0

/-- The source from the place on. -/
def here (st : RawState) : List Char :=
  st.source.drop (st.lineStart + st.column)

/-- The state after a look at the start of the line, and whether no more than three blanks stand
before the place. -/
def atLineStart (st : RawState) : RawState × Bool :=
  if st.column == 0 then (st, true)
  else if 3 < st.column then (st, false)
  else
    let st := st.located
    (st, ((st.source.drop st.lineStart).take st.column).all isBlank)

/-- The state after that look, and whether a raw block may start here. -/
def mayStart (st : RawState) : RawState × Bool :=
  let (st, first) := st.atLineStart
  (st, first || st.inTail)

/-! ### Pieces -/

/-- Does the text end at an empty line? -/
def afterEmptyLine (st : RawState) : Bool :=
  match st.text with
  | .char '\n' :: .char '\n' :: _ => true
  | _ => false

/-- More text, outside or inside a raw block. -/
def addData (st : RawState) (s : List Char) : RawState :=
  let st := { st with inTail := st.inTail && !s.contains '\n' }
  if st.inBlock then { st with block := s.reverse ++ st.block }
  else
    let st := { st with text := (ofChars s).reverse ++ st.text }
    if st.afterEmptyLine then { st with around := [] } else st

/-- More text in the raw block. -/
def addBlock (st : RawState) (s : List Char) : RawState :=
  { st with block := s.reverse ++ st.block }

/-- The raw block put into the text, with an empty line after it. -/
def flush (st : RawState) : RawState :=
  { st with
    text := .char '\n' :: .char '\n' :: .markup st.block.reverse :: st.text
    block := [] }

/-- A piece without content: part of the open block, a block of its own, or text. -/
def addPiece (st : RawState) (s : List Char) (ownLines : Bool) : RawState :=
  if st.inBlock || st.inTail then st.addBlock s
  else
    let (st, first) := st.atLineStart
    if ownLines && first then
      let st := st.located
      let blank := startsBlankLines (st.here.drop s.length)
      let text :=
        match st.text with
        | .char '\n' :: .char '\n' :: _ => st.text
        | .char '\n' :: _ => .char '\n' :: st.text
        | _ => st.text
      let s := if blank then s ++ ['\n'] else s
      { st with
        text := .char '\n' :: .char '\n' :: .markup s :: text
        inTail := !blank }
    else { st with text := (ofChars s).reverse ++ st.text }

/-- The elements that have no content. -/
def emptyNames : List String :=
  ["area", "base", "br", "col", "embed", "hr", "img", "input", "link", "meta", "source", "track",
    "wbr"]

/-- A start tag. -/
def addStart (st : RawState) (tag : StartTag) : RawState :=
  let ownLines := isBlockName tag.name
  let name := smallName tag.name
  if tag.selfClosing || name == "hr" then st.addPiece tag.text ownLines
  else
    let (st, starts) := if ownLines && !st.inTail then st.atLineStart else (st, ownLines)
    let st :=
      if starts && !st.inBlock then { st with inBlock := true, text := .char '\n' :: st.text }
      else st
    if st.inBlock then
      let plain := if name == "script" || name == "style" then some name else none
      { st.addBlock tag.text with names := name :: st.names, plain }
    else
      let around := if emptyNames.contains name then st.around else name :: st.around
      { st with text := (ofChars tag.text).reverse ++ st.text, around }

/-- The open elements without the innermost of a name and those inside it. -/
def closeName (name : String) (names : List String) : List String :=
  if names.contains name then (names.dropWhile (· != name)).drop 1 else names

/-- An end tag of a name, whose text is looked up at its place. -/
def addEnd (st : RawState) (name : List Char) : RawState :=
  let name := smallName name
  let st := st.located
  let s :=
    match throughMark? ['>'] st.here with
    | some (text, _) => text
    | none => '<' :: '/' :: name.toList ++ ['>']
  if st.inBlock then
    let st := { st.addBlock s with names := closeName name st.names }
    if st.names.isEmpty then
      let blank := startsBlankLines (st.here.drop s.length)
      let st := if blank then st.addBlock ['\n'] else { st with inTail := true }
      { st.flush with inBlock := false }
    else st
  else { st with text := (ofChars s).reverse ++ st.text, around := closeName name st.around }

/-- The text at the end; a block that is still open goes into it. -/
def finish (st : RawState) : Atoms :=
  if st.block.isEmpty then st.text.reverse else (.markup st.block.reverse :: st.text).reverse

end RawState

/-! ## 6. Reading -/

/-- Where a step leads: the state and what follows, or the end of the reading before that. -/
inductive RawProgress where
  | on (st : RawState) (rest : List Char)
  | stop (st : RawState) (rest : List Char)

/-- One step from the start of a text, which is not empty. In the last reading markup without an
end is text, up to the next angle bracket at its end. -/
def rawStep (last : Bool) (st : RawState) (s : List Char) : RawProgress :=
  let data (st : RawState) (n : Nat) : RawProgress :=
    .on ((st.addData (s.take n)).passed (s.take n)) (s.drop n)
  let past (st : RawState) (rest : List Char) : RawProgress :=
    .on (st.passed (s.take (s.length - rest.length))) rest
  let unended (st : RawState) : RawProgress :=
    if last then
      let inside := s.drop 1
      if inside.contains '>' then data st ((inside.takeWhile (· != '>')).length + 2)
      else if inside.contains '<' then data st ((inside.takeWhile (· != '<')).length + 1)
      else data st 1
    else .stop st s
  let endTag (st : RawState) : RawProgress :=
    match throughMark? ['>'] s with
    | some (_, rest) => past { st.addEnd (endTagName s) with plain := none } rest
    | none => unended st
  match st.plain with
  | some name =>
    match untilClose? name s with
    | none => .stop st s
    | some 0 => if (s.drop 2).head?.any isLetter then endTag st else data st 2
    | some n => data st n
  | none =>
    match s with
    | '<' :: '/' :: c :: _ => if isLetter c then endTag st else data st 2
    | '<' :: '!' :: '-' :: '-' :: r =>
      match comment? r with
      | some (text, rest) =>
        let text := '<' :: '!' :: '-' :: '-' :: text ++ ['-', '-', '>']
        past (st.addPiece text (!st.around.any (closesLater · rest))) rest
      | none => data st 1
    | '<' :: '?' :: r =>
      let (st, allowed) := st.mayStart
      if !allowed then data st 2
      else
        match throughMark? ['?', '>'] r with
        | some (text, rest) => past (st.addPiece ('<' :: '?' :: text) true) rest
        | none => unended st
    | '<' :: '!' :: r =>
      let (st, allowed) := st.mayStart
      if !allowed then data st 2
      else if "[CDATA[".toList.isPrefixOf r then
        match untilBrackets? r with
        | some (text, rest) =>
          past (st.addPiece ('<' :: '!' :: text ++ [']', ']', '>']) true) rest
        | none => unended st
      else
        match throughMark? ['>'] r with
        | some (text, rest) =>
          let isType := (text.take 7).map Char.toLower == "doctype".toList
          past (st.addPiece ('<' :: '!' :: text) isType) rest
        | none => if r.head? == some '[' then data st 1 else unended st
    | '<' :: c :: _ =>
      if isLetter c then
        match startTag s with
        | .tag tag rest => past (st.addStart tag) rest
        | .text count => data st count
      else data st 1
    | '&' :: '#' :: _ =>
      match numberReference? s with
      | some (body, rest) =>
        past (st.addPiece ('&' :: '#' :: body ++ [';']) false)
          (if rest.head? == some ';' then rest.drop 1 else rest)
      | none =>
        if s.contains ';' then
          let st := (st.addData (s.take 2)).passed (s.take 2)
          .stop st (s.drop 2)
        else .stop st s
    | '&' :: _ =>
      match nameReference? s with
      | some (text, rest) => past (st.addPiece text false) rest
      | none => data st 1
    | _ => data st 1

/-- Reads a text to its end or to where the reading stops; the first argument bounds the number
of steps. -/
def rawLoop (last : Bool) : Nat → RawState → List Char → RawState × List Char
  | 0, st, s => (st, s)
  | _, st, [] => (st, [])
  | bound + 1, st, c :: s =>
    match rawStep last st (c :: s) with
    | .on st rest => rawLoop last bound st rest
    | .stop st rest => (st, rest)

/-- The text in which the markup on lines of its own is taken out. The places of the second
reading are counted on from the first, although they are looked up in what is left. -/
def extractRaw (s : List Char) : Atoms :=
  let (st, rest) := rawLoop false s.length (.start s) s
  let (st, rest) := rawLoop true rest.length { st with source := rest } rest
  (st.addData rest).finish

end StaticSite.Markdown
