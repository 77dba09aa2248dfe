/-
StaticSite.Generate.Document — one page, from its parts to its file.

The elements of a document make their bodies when they are asked for them,
from the outside in. So the stylesheet is asked for its text deep in the
head, and after that the content is made, deep in the body. A stylesheet
that was read stays read, even if the page fails after that. The file is
written when the document is there as a whole.

The pages of a site are made of characters. A page of somebody else may
have content with halves of surrogate pairs. Its document is made in the
same way, but cannot be stored; so all this is for any kind of text that
some documents can be made of (`DocumentText`).
-/
import StaticSite.Action
import StaticSite.Pages.Registry

namespace StaticSite

open StaticSite.Text (RawText)

/-! ## 1. Errors -/

/-- Why a text is not written: its file could not be written, or it is not a text of characters. -/
inductive WriteError where
  | access (e : AccessError)
  | notCharacters
  deriving DecidableEq, Repr

/-- The file that could not be written, if that was the error. -/
def WriteError.resource? : WriteError → Option Unavailable
  | .access e => e.resource?
  | .notCharacters => none

/-- Why a page is not generated. -/
inductive PageError where
  | stylesheet (e : ReadError)
  | content (e : ContentError)
  | output (e : WriteError)
  deriving DecidableEq, Repr

/-- The file that could not be read or written, if the error is about one. -/
def PageError.resource? : PageError → Option Unavailable
  | .stylesheet (.access e) => e.resource?
  | .stylesheet .notText => none
  | .content _ => none
  | .output e => e.resource?

/-! ## 2. What documents are made of -/

/-- The kinds of text that documents are made of. All of them hold the texts of characters; what
can be stored of them has bytes. -/
class DocumentText (τ : Type) extends Append τ where
  ofString : String → τ
  encode? : τ → Option ByteArray

/-- Texts of characters can always be stored. -/
instance : DocumentText String :=
  ⟨id, fun text => some (Text.encodeUtf8 text)⟩

instance : DocumentText RawText :=
  ⟨RawText.ofString, RawText.encode?⟩

namespace DocumentText

variable {τ : Type} [DocumentText τ]

/-- An element without attributes. -/
def element (tag : String) (body : τ) : τ :=
  ofString ("<" ++ tag ++ ">") ++ body ++ ofString ("</" ++ tag ++ ">")

end DocumentText

/-- What a document is made from: the frame of a page, and its content at a site. -/
structure DocumentSource (τ : Type) where
  frame : PageFrame
  content : SiteConfig → FileSystem → Except ContentError τ

/-- The frame and the content of a page of a site. -/
def Page.source (page : Page) : DocumentSource String :=
  ⟨page.frame, page.content⟩

/-! ## 3. Documents -/

/-- Making a part of a document. It may read the stylesheet of the document, which then stays read,
and it may fail. -/
abbrev Making (α : Type) : Type :=
  Action PageError Stylesheet α

/-- The text of the stylesheet. -/
def sharedStyle (fs : FileSystem) : Making String := fun sheet =>
  match sheet.text fs with
  | (sheet, .error e) => (.error (.stylesheet e), sheet)
  | (sheet, .ok css) => (.ok css, sheet)

section

variable {τ : Type} [DocumentText τ]

/-- An element that asks for its body. -/
def elementOf (tag : String) (body : Making τ) : Making τ := do
  return DocumentText.element tag (← body)

namespace DocumentSource

/-- The head of a document: its metadata, then a style that starts with the shared one. -/
def makeHead (source : DocumentSource τ) (site : SiteConfig) (fs : FileSystem) : Making τ :=
  let tags := PageFrame.headTags site (source.frame.title site) source.frame.path
  elementOf "head" do
    let style ← elementOf "style" do
      return DocumentText.ofString ((← sharedStyle fs) ++ source.frame.extraCss)
    return DocumentText.ofString (tags ++ "\n") ++ style

/-- The content of a document, or its failure. -/
def makeContent (source : DocumentSource τ) (site : SiteConfig) (fs : FileSystem) : Making τ :=
  match source.content site fs with
  | .error e => throw (.content e)
  | .ok content => return content

/-- The body of a document: its content between the header and the footer of the site. -/
def makeBody (source : DocumentSource τ) (site : SiteConfig) (fs : FileSystem) : Making τ :=
  elementOf "body" do
    return DocumentText.ofString (PageFrame.header site) ++ (← source.makeContent site fs) ++
      DocumentText.ofString (source.frame.footer site)

/-- The whole document. -/
def makeDocument (source : DocumentSource τ) (site : SiteConfig) (fs : FileSystem) :
    Making τ := do
  let html ← elementOf "html" do
    return (← source.makeHead site fs) ++ (← source.makeBody site fs)
  return DocumentText.ofString "<!DOCTYPE html>\n" ++ html

/-- The document, and the stylesheet afterwards. -/
def render (source : DocumentSource τ) (site : SiteConfig) (sheet : Stylesheet) (fs : FileSystem) :
    Stylesheet × Except PageError τ :=
  let (document, sheet) := (source.makeDocument site fs).perform sheet
  (sheet, document)

/-- A document around its content. -/
def documentAround (source : DocumentSource τ) (site : SiteConfig) (css : String)
    (content : τ) : τ :=
  let tags := PageFrame.headTags site (source.frame.title site) source.frame.path
  let style : τ :=
    DocumentText.element "style" (DocumentText.ofString (css ++ source.frame.extraCss))
  DocumentText.ofString "<!DOCTYPE html>\n" ++ DocumentText.element "html"
    (DocumentText.element "head" (DocumentText.ofString (tags ++ "\n") ++ style) ++
      DocumentText.element "body" (DocumentText.ofString (PageFrame.header site) ++ content ++
        DocumentText.ofString (source.frame.footer site)))

/-- The stylesheet comes first, and then the content. -/
theorem render_eq (source : DocumentSource τ) (site : SiteConfig) (sheet : Stylesheet)
    (fs : FileSystem) :
    source.render site sheet fs =
      match sheet.text fs with
      | (sheet, .error e) => (sheet, .error (.stylesheet e))
      | (sheet, .ok css) =>
        match source.content site fs with
        | .error e => (sheet, .error (.content e))
        | .ok content => (sheet, .ok (source.documentAround site css content)) := by
  have hstyle : (sharedStyle fs).perform sheet =
      match sheet.text fs with
      | (sheet, .error e) => (.error (.stylesheet e), sheet)
      | (sheet, .ok css) => (.ok css, sheet) := rfl
  simp only [render, makeDocument, makeHead, makeBody, makeContent, elementOf, Action.perform_bind,
    Action.perform_pure, hstyle]
  obtain ⟨after, text⟩ := sheet.text fs
  cases text with
  | error e => rfl
  | ok css =>
    cases source.content site fs with
    | error e => rfl
    | ok content => rfl

end DocumentSource

end

/-! ## 4. Documents of the pages of a site -/

/-- The document of a page, and the stylesheet afterwards. -/
def Page.render (page : Page) (site : SiteConfig) (sheet : Stylesheet) (fs : FileSystem) :
    Stylesheet × Except PageError String :=
  page.source.render site sheet fs

theorem DocumentText.encode?_string (text : String) :
    DocumentText.encode? text = some (Text.encodeUtf8 text) := rfl

theorem DocumentText.element_string (tag body : String) :
    DocumentText.element tag body = Markup.element tag [] body := by
  change "<" ++ tag ++ ">" ++ body ++ ("</" ++ tag ++ ">") = _
  simp only [Markup.element, Markup.renderElement, Markup.renderTexts,
    String.append_empty, String.append_assoc]

theorem Page.documentAround_source (page : Page) (site : SiteConfig) (css content : String) :
    page.source.documentAround site css content = page.frame.document site css content := by
  simp only [DocumentSource.documentAround, DocumentText.element_string]
  rfl

/-- The stylesheet comes first, and then the content. -/
theorem Page.render_eq (page : Page) (site : SiteConfig) (sheet : Stylesheet) (fs : FileSystem) :
    page.render site sheet fs =
      match sheet.text fs with
      | (sheet, .error e) => (sheet, .error (.stylesheet e))
      | (sheet, .ok css) =>
        match page.content site fs with
        | .error e => (sheet, .error (.content e))
        | .ok content => (sheet, .ok (page.frame.document site css content)) := by
  have hcontent : page.source.content site fs = page.content site fs := rfl
  rw [render, DocumentSource.render_eq, hcontent]
  obtain ⟨after, text⟩ := sheet.text fs
  cases text with
  | error e => rfl
  | ok css =>
    cases page.content site fs with
    | error e => rfl
    | ok content => simp only [documentAround_source]

/-! ## 5. Files -/

section

variable {τ : Type} [DocumentText τ]

/-- Writes a text to a file, all or nothing, if it has bytes. Any other fails when it is about to be
stored, and then the temporary file is left where it is. -/
def FileSystem.writeText (fs : FileSystem) (p : Path) (text : τ) :
    FileSystem × Option WriteError :=
  match DocumentText.encode? text with
  | some bytes =>
    let written := fs.writeAtomic p bytes
    (written.1, written.2.map fun e => .access (.of p e))
  | none =>
    match fs.createTemporary p with
    | .error e => (fs, some (.access (.of p e)))
    | .ok (created, _) => (created, some .notCharacters)

theorem FileSystem.writeText_of_encode {text : τ} {bytes : ByteArray}
    (h : DocumentText.encode? text = some bytes) (fs : FileSystem) (p : Path) :
    fs.writeText p text =
      ((fs.writeAtomic p bytes).1, (fs.writeAtomic p bytes).2.map fun e => .access (.of p e)) := by
  simp only [writeText, h]

/-- What comes of generating a page: the stylesheet and the files afterwards, and why there
is no new file, if there is none. -/
structure Generated where
  sheet : Stylesheet
  files : FileSystem
  failure : Option PageError

/-- Generates a document into a file. -/
def DocumentSource.generate (source : DocumentSource τ) (site : SiteConfig) (sheet : Stylesheet)
    (fs : FileSystem) (p : Path) : Generated :=
  match source.render site sheet fs with
  | (sheet, .error e) => ⟨sheet, fs, some e⟩
  | (sheet, .ok document) =>
    let written := fs.writeText p document
    ⟨sheet, written.1, written.2.map .output⟩

end

/-- Generates a page of a site into a file. -/
def Page.generate (page : Page) (site : SiteConfig) (sheet : Stylesheet) (fs : FileSystem)
    (p : Path) : Generated :=
  page.source.generate site sheet fs p

theorem Page.generate_render (page : Page) (site : SiteConfig) (sheet : Stylesheet)
    (fs : FileSystem) (p : Path) :
    page.generate site sheet fs p =
      match page.render site sheet fs with
      | (sheet, .error e) => ⟨sheet, fs, some e⟩
      | (sheet, .ok document) =>
        ⟨sheet, (fs.writeText p document).1, (fs.writeText p document).2.map .output⟩ := by
  rw [generate, DocumentSource.generate, render]
  obtain ⟨after, document⟩ := page.source.render site sheet fs
  cases document <;> rfl

end StaticSite
