/-
StaticSite.Proofs.Page.Header — the header read back.

The tagline and the labels of the links stand in the header as escaped
texts, the banner and the addresses as attribute values. So the header is
read as one element with the banner and the tagline, and one with a link
for each link of the site (`headerPieces`), and nothing that is configured
can make it read differently. The links can be listed again from what is
read (`linksOf_anchors`).
-/
import StaticSite.Page.Skeleton
import StaticSite.Proofs.Markup.Fragment

namespace StaticSite

open StaticSite.Markup StaticSite.Text

namespace PageFrame

/-! ## 1. What is read -/

/-- A link as it is read. -/
def anchorPiece (link : NavLink) : Piece :=
  .paired "a" [("href", some link.href)] (textPieces link.label)

/-- A header as it is read. -/
def headerPieces (site : SiteConfig) : List Piece :=
  [.paired "header" []
    [.empty "img" [("id", some "text-logo-with-mascot"), ("src", some site.bannerImage)],
      .paired "h2" [] (textPieces site.tagline)],
    .paired "nav" [] ((site.navLinks.map anchorPiece).intersperse (.text "\n")),
    .text "\n"]

/-- The text in an element that holds nothing else. -/
def textOf? : List Piece → Option String
  | [] => some ""
  | [.text s] => some s
  | _ => none

/-- The link that an element is. -/
def linkOf? : Piece → Option NavLink
  | .paired tag [(name, some href)] body =>
    if tag == "a" && name == "href" then (textOf? body).map fun label => ⟨label, href⟩ else none
  | _ => none

/-- The links among some pieces. -/
def linksOf (pieces : List Piece) : List NavLink :=
  pieces.filterMap linkOf?

theorem textOf?_textPieces (s : String) : textOf? (textPieces s) = some s := by
  by_cases hs : s = ""
  · subst hs
    rfl
  · simp [textPieces, addText, hs, textOf?]

theorem linkOf?_anchorPiece (link : NavLink) : linkOf? (anchorPiece link) = some link := by
  simp [linkOf?, anchorPiece, textOf?_textPieces]

/-- All links are found again, in their order, and the line ends between them are no links. -/
theorem linksOf_anchors (links : List NavLink) :
    linksOf ((links.map anchorPiece).intersperse (.text "\n")) = links := by
  induction links with
  | nil => rfl
  | cons link rest ih =>
    cases rest with
    | nil => simp [linksOf, linkOf?_anchorPiece]
    | cons next rest =>
      have hseparator : linkOf? (.text "\n") = none := rfl
      rw [List.map_cons] at ih
      rw [List.map_cons, List.map_cons, List.intersperse_cons_cons, linksOf, List.filterMap_cons,
        linkOf?_anchorPiece, List.filterMap_cons, hseparator]
      exact congrArg (link :: ·) ih

/-! ## 2. Reading -/

/-- A link before its label is decoded. -/
def rawAnchor (link : NavLink) : Piece :=
  .paired "a" [("href", some link.href)] (textPieces (escape link.label))

theorem readsAs_navAnchor (link : NavLink) : ReadsAs (navAnchor link) (rawAnchor link :: ·) :=
  readsAs_element (readsAs_encoded (encodes_escape link.label)) (by decide) (by simp +decide)

theorem decode_rawAnchor (link : NavLink) : (rawAnchor link).decode = anchorPiece link := by
  rw [rawAnchor, Piece.decode, decodePieces_textPieces (encodes_escape link.label), anchorPiece]

theorem decodePieces_anchors (links : List NavLink) :
    decodePieces ((links.map rawAnchor).intersperse (.text "\n")) =
      (links.map anchorPiece).intersperse (.text "\n") := by
  have hanchors : (links.map rawAnchor).map Piece.decode = links.map anchorPiece := by
    rw [List.map_map]
    exact List.map_congr_left fun link _ => decode_rawAnchor link
  rw [decodePieces_eq_map, map_intersperse, hanchors]
  rfl

theorem readDecoded_header (site : SiteConfig) :
    readDecoded (header site) = some (headerPieces site) := by
  have hbanner : ReadsAs (imgAt "text-logo-with-mascot" site.bannerImage)
      (.empty "img" [("id", some "text-logo-with-mascot"), ("src", some site.bannerImage)] :: ·) :=
    readsAs_empty_element (by decide) (by simp +decide)
  have htagline : ReadsAs (h2 (escape site.tagline))
      (.paired "h2" [] (textPieces (escape site.tagline)) :: ·) :=
    readsAs_element (readsAs_encoded (encodes_escape site.tagline)) (by decide) (by simp +decide)
  have hlinks : ReadsAs (joinWith "\n" (site.navLinks.map navAnchor))
      (separatedOnto "\n" (site.navLinks.map rawAnchor)) :=
    readsAs_joinWith (by decide) readsAs_navAnchor site.navLinks
  have htop : ReadsAs (element "header" [] _) _ :=
    readsAs_element (hbanner.append htagline) (by decide) (by simp +decide)
  have hnav : ReadsAs (element "nav" [] _) _ :=
    readsAs_element hlinks (by decide) (by simp +decide)
  have hend : ReadsAs "\n" (addText "\n") := readsAs_text (by decide)
  have hheader : ReadsAs (header site) _ := (htop.append hnav).append hend
  have hseparated : separatedOnto "\n" (site.navLinks.map rawAnchor) [] =
      (site.navLinks.map rawAnchor).intersperse (.text "\n") :=
    separatedOnto_elements (by decide) (fun link s h => by cases h) site.navLinks
  rw [hheader.readDecoded, headerPieces, ← decodePieces_anchors, ← hseparated,
    ← decodePieces_textPieces (encodes_escape site.tagline)]
  rfl

/-- Headers that are read alike show the same banner, tagline and links. -/
theorem headerPieces_inj {site other : SiteConfig} (h : headerPieces site = headerPieces other) :
    site.bannerImage = other.bannerImage ∧ site.tagline = other.tagline ∧
      site.navLinks = other.navLinks := by
  simp only [headerPieces, List.cons.injEq, Piece.paired.injEq, Piece.empty.injEq, Prod.mk.injEq,
    Option.some.injEq, true_and, and_true] at h
  obtain ⟨⟨hbanner, htagline⟩, hlinks⟩ := h
  refine ⟨hbanner, ?_, ?_⟩
  · have htext := congrArg textOf? htagline
    rwa [textOf?_textPieces, textOf?_textPieces, Option.some.injEq] at htext
  · have hlisted := congrArg linksOf hlinks
    rwa [linksOf_anchors, linksOf_anchors] at hlisted

/-- The header is read as the banner with the tagline, and then one link for each link of the
site, in their order, whatever the texts are. So two sites have the same header only if these are
the same. -/
theorem header_readBack (site : SiteConfig) :
    readDecoded (header site) = some (headerPieces site) ∧
      ∀ other : SiteConfig, header site = header other ↔
        site.bannerImage = other.bannerImage ∧ site.tagline = other.tagline ∧
          site.navLinks = other.navLinks := by
  refine ⟨readDecoded_header site, fun other => ⟨fun hsame => ?_, ?_⟩⟩
  · have hpieces := readDecoded_header site
    rw [hsame, readDecoded_header, Option.some.injEq] at hpieces
    exact headerPieces_inj hpieces.symm
  · rintro ⟨hbanner, htagline, hlinks⟩
    rw [header, header, hbanner, htagline, hlinks]

example : headerPieces { bannerImage := "b.svg", tagline := "", navLinks := [] } =
    [.paired "header" []
      [.empty "img" [("id", some "text-logo-with-mascot"), ("src", some "b.svg")],
        .paired "h2" [] []],
      .paired "nav" [] [], .text "\n"] := rfl

end PageFrame

end StaticSite
