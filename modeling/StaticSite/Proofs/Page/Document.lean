/-
StaticSite.Proofs.Page.Document — a document and its five parts.

Of a page a document shows five things: its title, path, style, content and
footer picture (`PageParts`). They are put between fixed texts, and each of
them ends where it has to: the escaped ones hold neither tags nor quotes,
the style does not end its element, and the content lies between the header
and the last picture. So the parts are determined by the document
(`PageParts.document_inj`), although content and style go in as they are.
-/
import StaticSite.Generate.Document
import StaticSite.Proofs.Markup.References
import StaticSite.Proofs.Text.Delimiter
import Mathlib.Data.Set.Function

namespace StaticSite

open StaticSite.Markup StaticSite.Text

/-! ## 1. Escaped texts -/

theorem escapeHead_append_inj {a b next x y : String} {c : Char}
    (hfirst : next.toList.head? = some c) (hc : c = '<' ∨ c = '"')
    (h : escapeHead a ++ (next ++ x) = escapeHead b ++ (next ++ y)) : a = b ∧ x = y := by
  have hplain : ∀ s, c ∉ (escapeHead s).toList := by
    intro s hmem
    have hne := (encodes_escapeHead s).plain c hmem
    rcases hc with rfl | rfl
    · exact hne.1 rfl
    · exact hne.2 rfl
  obtain ⟨hsame, hrest⟩ := append_inj_of_stop hfirst (hplain a) (hplain b) h
  exact ⟨(encodes_escapeHead a).inj (encodes_escapeHead b) hsame, hrest⟩

/-! ## 2. The head and the footer -/

namespace PageFrame

/-- The metadata of a head determines the title and the path, and where it ends. -/
theorem headTags_append_inj {site : SiteConfig} {title title' path path' x y : String}
    (h : headTags site title path ++ x = headTags site title' path' ++ y) :
    title = title' ∧ path = path' ∧ x = y := by
  unfold headTags at h
  simp only [String.append_assoc, String.append_right_inj] at h
  obtain ⟨rfl, h⟩ := escapeHead_append_inj (c := '<') rfl (Or.inl rfl) h
  simp only [String.append_right_inj] at h
  obtain ⟨rfl, h⟩ := escapeHead_append_inj (c := '"') rfl (Or.inr rfl) h
  simp only [String.append_right_inj] at h
  exact ⟨rfl, rfl, h⟩

/-- What stands in a footer after the address of the picture. -/
def footerEnd (site : SiteConfig) : String :=
  "\" />" ++ element "div" [("style", "margin-top: 24px")]
    ("Created by " ++ a site.authorUrl site.authorName) ++ "</footer>"

theorem pictureFooter_eq (site : SiteConfig) (picture : String) :
    pictureFooter site picture = "<footer><img src=\"" ++ escape picture ++ footerEnd site := by
  have himg : img picture = "<img src=\"" ++ escape picture ++ "\" />" := by
    rw [← String.toList_inj]
    simp [img, emptyElement, renderElement, renderTexts, valuedAttribute, attributeName]
  have hfooter : ∀ body, element "footer" [] body = "<footer>" ++ body ++ "</footer>" := by
    intro body
    rw [← String.toList_inj]
    simp [element, renderElement, renderTexts]
  rw [pictureFooter, himg, hfooter, footerEnd]
  simp [← String.append_assoc]

end PageFrame

/-! ## 3. The document -/

open PageFrame

/-- The document as its parts and the fixed texts between them. -/
theorem PageParts.document_eq (parts : PageParts) (site : SiteConfig) (css : String) :
    parts.document site css =
      "<!DOCTYPE html>\n<html><head>" ++ (headTags site parts.title parts.path ++
        ("\n<style>" ++ (css ++ (parts.extraCss ++ ("</style>" ++ ("</head><body>" ++
          (header site ++ ((parts.content ++ ("<footer><img src=\"" ++ escape parts.footerPicture)) ++
            (footerEnd site ++ "</body></html>"))))))))) := by
  have hplain : ∀ tag body, element tag [] body = "<" ++ tag ++ ">" ++ body ++ "</" ++ tag ++ ">" := by
    intro tag body
    simp [element, renderElement, renderTexts]
  unfold document styledHead
  rw [pictureFooter_eq, hplain "style", hplain "head", hplain "body", hplain "html",
    ← String.toList_inj]
  simp [String.append_assoc]

/-- Does the style of the page not end the element that it stands in? -/
def PageParts.KeepsStyle (parts : PageParts) : Prop :=
  ¬ Holds parts.extraCss "</style>"

theorem PageParts.document_inj {site : SiteConfig} {css : String} {parts other : PageParts}
    (hparts : parts.KeepsStyle) (hother : other.KeepsStyle)
    (h : parts.document site css = other.document site css) : parts = other := by
  rw [document_eq, document_eq, String.append_right_inj] at h
  obtain ⟨htitle, hpath, h⟩ := headTags_append_inj h
  simp only [String.append_right_inj] at h
  obtain ⟨hstyle, h⟩ := append_inj_of_marker (c := '<') rfl (by decide) hparts hother h
  rw [String.append_right_inj, String.append_right_inj, String.append_left_inj] at h
  have hquote : ∀ s, '"' ∉ (escape s).toList :=
    fun s hmem => ((encodes_escape s).plain '"' hmem).2 rfl
  obtain ⟨hcontent, hpicture⟩ := append_inj_of_start (c := '"') rfl (hquote _) (hquote _) h
  have hpicture := (encodes_escape _).inj (encodes_escape _) hpicture
  cases parts
  cases other
  simp_all

/-- The documents of pages whose styles keep to their element, at a site and with a shared style,
are the same only if the parts are. -/
theorem PageParts.injOn_document (site : SiteConfig) (css : String) :
    Set.InjOn (fun parts : PageParts => parts.document site css)
      {parts : PageParts | parts.KeepsStyle} :=
  fun _ hparts _ hother h => document_inj hparts hother h

theorem Page.render_of_content {page : Page} {site : SiteConfig} {sheet : Stylesheet}
    {fs : FileSystem} {css content : String} (hcss : (sheet.text fs).2 = .ok css)
    (hcontent : page.content site fs = .ok content) :
    (page.render site sheet fs).2 = .ok ((page.frame.parts site content).document site css) := by
  rw [Page.render_eq]
  cases htext : sheet.text fs with
  | mk after text =>
    rw [htext] at hcss
    subst hcss
    simp only [hcontent, PageFrame.document]

/-- Two pages of a site, rendered with the same shared style, give the same document just if they
agree in title, path, own style, content and footer picture, whatever texts these are, as long as
their styles do not end the element they stand in. So there is a way to read the five back. -/
theorem document_readBack (site : SiteConfig) (css : String) :
    (∀ (page other : Page) (sheet : Stylesheet) (fs : FileSystem) (content content' : String),
      (sheet.text fs).2 = .ok css →
      page.content site fs = .ok content → other.content site fs = .ok content' →
      ¬ Holds page.frame.extraCss "</style>" → ¬ Holds other.frame.extraCss "</style>" →
        ((page.render site sheet fs).2 = (other.render site sheet fs).2 ↔
          page.frame.title site = other.frame.title site ∧ page.frame.path = other.frame.path ∧
            page.frame.extraCss = other.frame.extraCss ∧ content = content' ∧
              page.frame.footerPicture site = other.frame.footerPicture site)) ∧
    (∀ parts other : PageParts, parts.KeepsStyle → other.KeepsStyle →
      (parts.document site css = other.document site css ↔ parts = other)) ∧
    ∃ read : String → PageParts, ∀ parts : PageParts, parts.KeepsStyle →
      read (parts.document site css) = parts := by
  have hparts : ∀ parts other : PageParts, parts.KeepsStyle → other.KeepsStyle →
      (parts.document site css = other.document site css ↔ parts = other) :=
    fun parts other hstyle hstyle' =>
      ⟨PageParts.document_inj hstyle hstyle', fun h => by rw [h]⟩
  refine ⟨?_, hparts, ?_⟩
  · intro page other sheet fs content content' hcss hcontent hcontent' hstyle hstyle'
    have hsame := hparts (page.frame.parts site content) (other.frame.parts site content')
      hstyle hstyle'
    rw [Page.render_of_content hcss hcontent, Page.render_of_content hcss hcontent',
      Except.ok.injEq, hsame, PageFrame.parts, PageFrame.parts, PageParts.mk.injEq]
  · have : Nonempty PageParts := ⟨⟨"", "", "", "", ""⟩⟩
    exact ⟨Function.invFunOn (fun parts : PageParts => parts.document site css)
      {parts : PageParts | parts.KeepsStyle},
      fun parts hstyle => (PageParts.injOn_document site css).leftInvOn_invFunOn hstyle⟩

/-- A page with texts that look like other parts of a document. -/
def forgingPage : Page :=
  ⟨{ titleSuffix := "</title><style>", extraCss := "p { } </style", footerImage := some "\" />" },
    .markup "</body><footer><img src=\"x\" />"⟩

/-- The page with the last characters of its style in its content. -/
def otherPage : Page :=
  ⟨{ forgingPage.frame with extraCss := "p { } " },
    .markup "</style</body><footer><img src=\"x\" />"⟩

/-- A stylesheet that has been read. -/
def readSheet : Stylesheet := ⟨⟨.relative, ["base.css"]⟩, some "a { }"⟩

theorem document_readBack_forging :
    (readSheet.text (.empty [])).2 = .ok "a { }" ∧
      forgingPage.content {} (.empty []) = .ok "</body><footer><img src=\"x\" />" ∧
      otherPage.content {} (.empty []) = .ok "</style</body><footer><img src=\"x\" />" ∧
      ¬ Holds forgingPage.frame.extraCss "</style>" ∧
      ¬ Holds otherPage.frame.extraCss "</style>" ∧
      ((forgingPage.render {} readSheet (.empty [])).2 =
          (otherPage.render {} readSheet (.empty [])).2 ↔
        forgingPage.frame.title {} = otherPage.frame.title {} ∧
          forgingPage.frame.path = otherPage.frame.path ∧
            forgingPage.frame.extraCss = otherPage.frame.extraCss ∧
              "</body><footer><img src=\"x\" />" = "</style</body><footer><img src=\"x\" />" ∧
                forgingPage.frame.footerPicture {} = otherPage.frame.footerPicture {}) :=
  ⟨rfl, rfl, rfl, by decide, by decide,
    (document_readBack {} "a { }").1 forgingPage otherPage readSheet (.empty [])
      "</body><footer><img src=\"x\" />" "</style</body><footer><img src=\"x\" />"
      rfl rfl rfl (by decide) (by decide)⟩

end StaticSite
