/-
StaticSite.Markdown.Outline — the blocks of a text.

Blocks are read one after the other into the block that holds them. What a
block means depends on its first lines, on the last block before it and
on what is being read: the rules are tried in a fixed order, and the first
one that fits says what is added and which text is left to be read.
-/
import StaticSite.Markdown.LineForm

namespace StaticSite.Markdown

open StaticSite.Text

/-! ## 1. What is being read -/

/-- What is being read: plain blocks, the lines of a list's item, the first lines of an item
after an empty line, lines that have lost their indentation, or a quotation. -/
inductive Mode where
  | plain
  | item
  | looseItem
  | unindented
  | quote
  deriving DecidableEq, Repr

/-- How blocks are read into an outline. -/
abbrev BlockReader := Mode → List Atoms → Outline → Outline

/-- An outline, and blocks that are left to be read before the others. -/
abbrev Step := Outline × List Atoms

/-- Blocks that are left over, unless the text is empty. -/
def leftOver (s : Atoms) : List Atoms :=
  if s.isEmpty then [] else [s]

/-! ## 2. Empty lines and code -/

/-- Adds to the code of the last child, if that is a block of code. -/
def extendCode (more : Atoms) (b : Block) : Block :=
  if b.lastIs (· = .pre) then b.mapLast fun c => { c with text := c.text ++ more } else b

/-- A block that starts with an empty line: the line is dropped. -/
def readEmpty (block : Atoms) (o : Outline) : Step :=
  let filler := if block.isEmpty then ['\n', '\n'] else ['\n']
  (o.map (extendCode (verbatimText filler)), leftOver (block.drop 1))

/-- A character of code: those that mean something in markup are written as references. -/
def codeChar (c : Char) : List Char :=
  if c == '&' then "&amp;".toList
  else if c == '<' then "&lt;".toList
  else if c == '>' then "&gt;".toList
  else [c]

/-- A text as code. -/
def codeText (s : Atoms) : Atoms :=
  s.flatMap fun a =>
    match a with
    | .char c => verbatimText (codeChar c)
    | a => [a]

/-- An indented block: its indented lines are code, which goes on the code before it. -/
def readCode (block : Atoms) (o : Outline) : Step :=
  let (lines, rest) := takeIndented (linesOf block)
  let code := codeText (dropEndBlank (ofLines lines)) ++ [.verbatim '\n']
  let add (b : Block) : Block :=
    if b.lastIs (· = .pre) then extendCode (.verbatim '\n' :: code) b
    else b.add (.ofText .pre code)
  (o.map add, leftOver (ofLines rest))

/-! ## 3. Headings and rules -/

/-- The lines before the first one of a form, what that line gives, and the lines after it. -/
def splitAtForm {α : Type} (form : Atoms → Option α) :
    List Atoms → Option (List Atoms × α × List Atoms)
  | [] => none
  | line :: rest =>
    match form line with
    | some a => some ([], a, rest)
    | none => (splitAtForm form rest).map fun (front, a, rest) => (line :: front, a, rest)

/-- Lines with a heading among them: the lines before it are read first. In a new item after an
empty line the lines after it lose their indentation. -/
def readHeading? (read : BlockReader) (mode : Mode) (block : Atoms) (o : Outline) : Option Step :=
  (splitAtForm hashHeading? (linesOf block)).map fun (before, (level, text), after) =>
    let o := if before.isEmpty then o else read mode [ofLines before] o
    let after := ofLines after
    let after := if mode = .looseItem then unindent tabWidth after else after
    (o.map (·.add (.ofText (.heading level) text)), leftOver after)

/-- A line with an underline below it. -/
def readUnderlined? (block : Atoms) (o : Outline) : Option Step :=
  match linesOf block with
  | title :: underline :: rest =>
    (underlineLevel? underline).map fun level =>
      (o.map (·.add (.ofText (.heading level) (trim title))), leftOver (ofLines rest))
  | _ => none

/-- The text without the line ends it starts with. -/
def dropLineEnds (s : Atoms) : Atoms :=
  s.dropWhile (Atom.is '\n')

/-- The text without the line ends it ends with. -/
def dropEndLineEnds (s : Atoms) : Atoms :=
  (s.reverse.dropWhile (Atom.is '\n')).reverse

/-- Lines with a rule among them: the lines before it are read first. -/
def readRule? (read : BlockReader) (mode : Mode) (block : Atoms) (o : Outline) : Option Step :=
  (splitAtForm (fun line => if isRule line then some () else none) (linesOf block)).map
    fun (before, (), after) =>
      let before := dropEndLineEnds (ofLines before)
      let o := if before.isEmpty then o else read mode [before] o
      (o.map (·.add (.empty .rule)), leftOver (dropLineEnds (ofLines after)))

/-! ## 4. Lists -/

/-- Reads items into a list: an indented one belongs to the item before it. -/
def readItems (read : BlockReader) (items : List Atoms) (o : Outline) : Outline :=
  items.foldl (fun o item =>
    if isIndented item then o.inLast (read .item [item])
    else o.inNew (.empty .item) (read .item [item])) o

/-- Reads items into a list that has some already. As there was an empty line between them, the
last item and the first new one get paragraphs. -/
def readMoreItems (read : BlockReader) (items : List Atoms) (o : Outline) : Outline :=
  match items with
  | [] => o
  | first :: rest =>
    let o := o.map (·.mapLast fun item => item.wrapText.wrapTail)
    readItems read rest (o.inNew (.empty .item) (read .looseItem [first]))

/-- A new list, which tells its first number unless that is one. -/
def newList (list : Tag) (number : List Char) : Block :=
  { Block.empty list with
    start := if list = .numbers && number != ['1'] then some number else none }

/-- A block that starts with an item. -/
def readList? (read : BlockReader) (list : Tag) (block : Atoms) (o : Outline) : Option Step :=
  match (linesOf block).head?.bind (itemOf? list) with
  | none => none
  | some (number, _) =>
    let items := itemsOf list block
    let o :=
      if o.block.lastIs (· = list) then o.inLast (readMoreItems read items)
      else if o.block.tag.isList then readItems read items o
      else o.inNew (newList list number) (readItems read items)
    some (o, [])

/-! ## 5. Blocks in items -/

/-- How far down the last children the indentation of a block leads, and how many levels of
lists are passed on the way. The first argument bounds the number of steps. -/
def descend : Nat → Nat → Nat → Block → Nat × Nat
  | 0, _, level, _ => (level, 0)
  | bound + 1, wanted, level, b =>
    if wanted ≤ level then (level, 0)
    else
      match b.last? with
      | none => (level, 0)
      | some c =>
        if c.tag.isList || c.tag = .item then
          let (level, steps) := descend bound wanted (if c.tag.isList then level + 1 else level) c
          (level, steps + 1)
        else (level, 0)

/-- Reads a block into a list whose last item it belongs to. -/
def readIntoList (read : BlockReader) (block : Atoms) (o : Outline) : Outline :=
  if o.block.tag = .item then read .unindented [block] o
  else if o.block.lastIs (· = .item) then
    (o.map (·.mapLast Block.wrapText)).inLast (read .unindented (splitBlocks block))
  else o.inNew (.empty .item) (read .unindented [block])

/-- An indented block in an item, or after a list. -/
def readIndented? (read : BlockReader) (mode : Mode) (block : Atoms) (o : Outline) : Option Step :=
  let b := o.block
  if isIndented block && mode != .unindented && (b.tag = .item || b.lastIs Tag.isList) then
    let wanted := leadingSpaces block / tabWidth
    let (level, steps) := descend (2 * wanted) wanted (if mode = .item then 1 else 0) b
    let inner := unindent (tabWidth * level) block
    let o :=
      if b.tag = .item then
        if b.lastIs Tag.isList then o.inLast (read .unindented [inner])
        else read .unindented [inner] o
      else o.atDepth steps (readIntoList read inner)
    some (o, [])
  else none

/-! ## 6. Quotations, references and paragraphs -/

/-- Lines with a quoted one among them: the lines before it are read first, and all from there
on are quoted. -/
def readQuote? (read : BlockReader) (mode : Mode) (block : Atoms) (o : Outline) : Option Step :=
  (splitAtForm (fun line => if (quoted? line).isSome then some line else none) (linesOf block)).map
    fun (before, line, after) =>
      let o := read mode [ofLines before] o
      let lines := (line :: after).map unquote
      let lines := if before.isEmpty then lines else [] :: lines
      let fill := read .quote (splitBlocks (ofLines lines))
      (if o.block.lastIs (· = .quote) then o.inLast fill else o.inNew (.empty .quote) fill, [])

/-- The references that are defined one after the other at the start of a text, the last one
first, before some others, and the text after them. The first argument bounds their number. -/
def takeDefinitions : Nat → References → Atoms → References × Atoms
  | 0, references, s => (references, s)
  | bound + 1, references, s =>
    match referenceAt? (dropLineEnds s) with
    | some (reference, rest) => takeDefinitions bound (reference :: references) rest
    | none => (references, s)

/-- A block in which references are defined: the text before and after them is left. -/
def readReference? (block : Atoms) (o : Outline) : Option Step :=
  (findDefinition? [] true block).map fun (before, reference, after) =>
    let (references, after) := takeDefinitions after.length (reference :: o.references) after
    let before := if allBlank before then [] else [dropEndLineEnds before]
    let after := if allBlank after then [] else [dropLineEnds after]
    ({ o with references }, before ++ after)

/-- Text in an item of a list: it goes on what the item has. -/
def addItemText (block : Atoms) (b : Block) : Block :=
  match b.last? with
  | some c => b.setLast c (b.lastTail ++ .char '\n' :: block)
  | none =>
    if b.text.isEmpty then { b with text := dropBlank block }
    else { b with text := b.text ++ .char '\n' :: block }

/-- A block that is nothing else: a paragraph, or text in an item. -/
def readParagraph (mode : Mode) (block : Atoms) (o : Outline) : Step :=
  if allBlank block then (o, [])
  else if mode = .item then (o.map (addItemText block), [])
  else (o.map (·.add (.ofText .paragraph (dropBlank block))), [])

/-! ## 7. All of them -/

/-- Reads one block by the first rule that fits. -/
def readBlock (read : BlockReader) (mode : Mode) (block : Atoms) (o : Outline) : Step :=
  if block.isEmpty || startsWith '\n' block then readEmpty block o
  else
    let indented? := readIndented? read mode block o
    match indented? with
    | some step => step
    | none =>
      if isIndented block then readCode block o
      else
        let rules : List (Unit → Option Step) :=
          [fun _ => readHeading? read mode block o,
            fun _ => readUnderlined? block o,
            fun _ => readRule? read mode block o,
            fun _ => readList? read .numbers block o,
            fun _ => readList? read .bullets block o,
            fun _ => readQuote? read mode block o,
            fun _ => readReference? block o]
        (rules.findSome? fun rule => rule ()).getD (readParagraph mode block o)

/-- Reads blocks one after the other; the first argument bounds how many there are, those
inside them and those that are left over included. -/
def readBlocks : Nat → BlockReader
  | 0, _, _, o => o
  | _, _, [], o => o
  | bound + 1, mode, block :: rest, o =>
    let read := readBlocks bound
    let (o, front) := readBlock read mode block o
    read mode (front ++ rest) o

/-- The blocks of a text and the references in it. -/
def outlineOf (s : Atoms) : Outline :=
  readBlocks (2 * s.length + 2) .plain (splitBlocks s) ⟨.empty .document, []⟩

end StaticSite.Markdown
