/-
StaticSite.Proofs.Page.Footer — the footer as a reader sees it.

The addresses of the picture and of the author are values of attributes,
which are escaped. The name of the author is put into its link as it stands,
so the footer is read as the picture and the link (`footerParts`) just if the
name is shown as it stands (`readShown_footer_iff`).
-/
import StaticSite.Page.Skeleton
import StaticSite.Proofs.Markup.Verbatim

namespace StaticSite.PageFrame

open StaticSite.Markup StaticSite.Text

/-! ## 1. What is to be read -/

/-- A footer: a picture, and below it the name of the author as a link. -/
def footerParts (site : SiteConfig) (picture : String) : List Part :=
  [.element "footer" []
    [.lone "img" [("src", some picture)],
      .element "div" [("style", some "margin-top: 24px")]
        (textParts "Created by " ++
          [.element "a" [("href", some site.authorUrl)] (textParts site.authorName)])]]

/-! ## 2. Reading -/

section

variable (site : SiteConfig) (picture : String)

theorem isWrittenAs_pictureFooter :
    IsWrittenAs (pictureFooter site picture) (footerParts site picture) := by
  have hpicture : IsWrittenAs (img picture) [.lone "img" [("src", some picture)]] :=
    .emptyElement (by decide) (by decide) rfl
  have hlink : IsWrittenAs (a site.authorUrl site.authorName)
      [.element "a" [("href", some site.authorUrl)] (textParts site.authorName)] :=
    (IsWrittenAs.text site.authorName).element (by decide) (by decide) rfl
  have hcredit := (IsWrittenAs.text "Created by ").append hlink
  have hdivision : IsWrittenAs (element "div" [("style", "margin-top: 24px")]
      ("Created by " ++ a site.authorUrl site.authorName)) _ :=
    hcredit.element (by decide) (by decide) rfl
  exact (hpicture.append hdivision).element (by decide) (by decide) rfl

/-- Only the name of the author can stand for something else. -/
theorem partsShown_footerParts (d : Decoder) :
    PartsShown d [] (footerParts site picture) ↔ IsShown d site.authorName.toList := by
  have hcredit : IsShown d "Created by ".toList := isShown_of_plain d (by decide) (by decide)
  simp only [footerParts, partsShown_element, partsShown_lone, partsShown_text,
    partsShown_textParts, partsShown_nil, List.nil_append, isShown_nil, hcredit, true_and,
    and_true]

end

/-- A footer is read as one element with the picture and, in a division with its style, the words
`Created by` and a link to the author with the name as its text, just if no tag or comment starts in
the name and it has no reference. The addresses can be any texts. -/
theorem readShown_footer_iff (d : Decoder) (frame : PageFrame) (site : SiteConfig) :
    readShown d (frame.footer site) = some (footerParts site (frame.footerPicture site)) ↔
      IsShown d site.authorName.toList := by
  rw [footer, (isWrittenAs_pictureFooter site (frame.footerPicture site)).readShown_iff,
    partsShown_footerParts]

/-- A name with tags is read as an element in the link. -/
theorem not_readShown_footer_boldAuthor :
    readShown .standard (footer {} { authorName := "<b>Ann</b>" }) ≠
      some (footerParts { authorName := "<b>Ann</b>" }
        (footerPicture {} { authorName := "<b>Ann</b>" })) := by
  rw [Ne, readShown_eq_some_iff]
  decide +kernel

end StaticSite.PageFrame
