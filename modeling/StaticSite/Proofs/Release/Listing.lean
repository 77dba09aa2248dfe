/-
StaticSite.Proofs.Release.Listing — the page of the releases as a reader sees it.

The page is read as one division for each release, in which the version, the
paragraphs before the sections, the sections and the programs stand in their
order (`contentParts`), whatever markup the paragraphs and the items hold, as
long as it is well formed (`readHtml_content`). The tags that the page
adds go along with reading and with writing, which is shown once for both
(`IsCompositional`, `renderRelease_parts`).

Versions, headings, platforms and targets are put between tags as they stand.
So they are shown as they stand just if they hold nothing that reads as markup
or as a reference (`readShown_renderRelease_iff`).
-/
import StaticSite.Proofs.Markup.Closed
import StaticSite.Proofs.Markup.Verbatim
import StaticSite.Proofs.Release.Programs

namespace StaticSite.Changelog

open StaticSite.Markup StaticSite.Text

/-! ## 1. What is to be read -/

/-- Parts in a row, with a line end between neighbours. -/
def inLines (parts : List (List Part)) : List Part :=
  joinLists (textParts "\n") parts

/-- A section: its heading, and a list with one entry for each item. -/
def sectionParts (d : Decoder) (s : ReleaseSection) : List Part :=
  [.element "h4" [] (textParts s.heading),
    .element "ul" [] (inLines (s.items.map fun item => [.element "li" [] (partsOf d item)]))]

/-- The programs of a release below a heading, if there is a platform. -/
def binariesParts (site : SiteConfig) (release : Release) : List Part :=
  if release.binaries.isEmpty then []
  else
    [.element "h4" [] (textParts "Binaries"),
      .element "div" [("class", some "code-block")] (textParts (blockText site release))]

/-- A release: its version, the paragraphs before the sections, the sections, and the programs. -/
def releasePart (d : Decoder) (site : SiteConfig) (release : Release) : Part :=
  .element "div" [("class", some "release")]
    (.element "h3" [("id", some release.version)] (textParts release.version) ::
      (release.intro.flatMap (partsOf d) ++ inLines (release.sections.map (sectionParts d)) ++
        binariesParts site release))

/-- The heading of the page, and a division for each release. -/
def contentParts (d : Decoder) (site : SiteConfig) (releases : List Release) : List Part :=
  .element "h2" [("id", some "releases")] (textParts "Releases") ::
    inLines (releases.map fun release => [releasePart d site release])

/-! ## 2. Putting the page together -/

/-- The texts of a release are in a relation to the parts that they are to be read as. -/
structure HasParts (P : String → List Part → Prop) (d : Decoder) (site : SiteConfig)
    (release : Release) : Prop where
  version : P release.version (textParts release.version)
  intro : ∀ paragraph ∈ release.intro, P paragraph (partsOf d paragraph)
  heading : ∀ s ∈ release.sections, P s.heading (textParts s.heading)
  item : ∀ s ∈ release.sections, ∀ item ∈ s.items,
    P (li item) [.element "li" [] (partsOf d item)]
  block : P (blockText site release) (textParts (blockText site release))

section

variable {P : String → List Part → Prop} {d : Decoder} {site : SiteConfig} {release : Release}

theorem renderSection_parts (hP : IsCompositional P) {s : ReleaseSection}
    (hheading : P s.heading (textParts s.heading))
    (hitems : ∀ item ∈ s.items, P (li item) [.element "li" [] (partsOf d item)]) :
    P (renderSection s) (sectionParts d s) := by
  have hlines : P (joinWith "\n" (s.items.map li))
      (inLines (s.items.map fun item => [.element "li" [] (partsOf d item)])) :=
    hP.joinWith (by decide) hitems
  have htitle : P (h4 s.heading) [.element "h4" [] (textParts s.heading)] :=
    hP.element hheading (by decide) (by decide) rfl
  exact hP.append htitle (hP.element hlines (by decide) (by decide) rfl)

theorem binaries_parts (hP : IsCompositional P)
    (hblock : P (blockText site release) (textParts (blockText site release))) :
    P (binaries site release) (binariesParts site release) := by
  rw [binaries, binariesParts]
  cases release.binaries.isEmpty with
  | true => exact hP.empty
  | false =>
    have htitle : P (h4 "Binaries") [.element "h4" [] (textParts "Binaries")] :=
      hP.element (hP.text (by decide)) (by decide) (by decide) rfl
    exact hP.append htitle (hP.element hblock (by decide) (by decide) rfl)

/-- What a release is put together from goes into its division. -/
theorem renderRelease_parts (hP : IsCompositional P) (h : HasParts P d site release) :
    P (renderRelease site release) [releasePart d site release] := by
  have hversion : P (h3At release.version release.version)
      [.element "h3" [("id", some release.version)] (textParts release.version)] :=
    hP.element h.version (by decide) (by decide) rfl
  have hintro : P (concat (release.intro.map id)) (release.intro.flatMap (partsOf d)) :=
    hP.concat h.intro
  rw [List.map_id] at hintro
  have hsections : P (joinWith "\n" (release.sections.map renderSection))
      (inLines (release.sections.map (sectionParts d))) :=
    hP.joinWith (by decide) fun s hs => renderSection_parts hP (h.heading s hs) (h.item s hs)
  have hinside := hP.append (hP.append hversion (hP.append hintro hsections))
    (binaries_parts hP h.block)
  exact hP.element hinside (by decide) (by decide) rfl

end

/-! ## 3. Releases with well-formed markup -/

/-- The plain texts of a release hold no signs that start tags or references, and its markup is well
formed. A paragraph before the sections does not end in a sign that the next one could make a tag
of. -/
structure IsListable (site : SiteConfig) (release : Release) : Prop where
  noTag : LacksChar '<' site release
  noReference : LacksChar '&' site release
  heading : ∀ s ∈ release.sections, '<' ∉ s.heading.toList ∧ '&' ∉ s.heading.toList
  intro : ∀ paragraph ∈ release.intro, IsClosed paragraph.toList
  item : ∀ s ∈ release.sections, ∀ item ∈ s.items, IsWellFormed item.toList

/-- The plain texts of a release are shown as they stand. -/
structure ShowsTexts (d : Decoder) (site : SiteConfig) (release : Release) : Prop where
  version : IsShown d release.version.toList
  heading : ∀ s ∈ release.sections, IsShown d s.heading.toList
  block : IsShown d (blockText site release).toList

section

variable {site : SiteConfig} {release : Release}

theorem IsListable.showsTexts (h : IsListable site release) (d : Decoder) :
    ShowsTexts d site release := by
  constructor
  · exact isShown_of_plain d h.noTag.version h.noReference.version
  · exact fun s hs => isShown_of_plain d (h.heading s hs).1 (h.heading s hs).2
  · exact isShown_of_plain d (h.noTag.not_mem_blockText (by decide) (by decide))
      (h.noReference.not_mem_blockText (by decide) (by decide))

theorem IsListable.hasParts (h : IsListable site release) (d : Decoder) :
    HasParts (IsReadAs d) d site release := by
  constructor
  · exact .text h.noTag.version
  · exact fun paragraph hparagraph => (h.intro paragraph hparagraph).isReadAs d
  · exact fun s hs => .text (h.heading s hs).1
  · exact fun s hs item hitem =>
      ((h.item s hs item hitem).isReadBeforeTag d).element (by decide) (by decide) rfl
  · exact .text (h.noTag.not_mem_blockText (by decide) (by decide))

end

/-- The page is read as its heading and then one division for each release, in their order, with a
line end between neighbours. Each holds the version, also as its anchor, the parts of each paragraph
before the sections, the sections with one entry for each item, which holds the parts of that item,
and the programs if there is a platform. These texts are shown as they stand. -/
theorem readHtml_content {site : SiteConfig} {releases : List Release}
    (h : ∀ release ∈ releases, IsListable site release) (d : Decoder) :
    readHtml d (content site releases) = some (contentParts d site releases) ∧
      ∀ release ∈ releases, ShowsTexts d site release := by
  have hP := isCompositional_isReadAs d
  have htitle : IsReadAs d (h2At "releases" "Releases")
      [.element "h2" [("id", some "releases")] (textParts "Releases")] :=
    hP.element (hP.text (by decide)) (by decide) (by decide) rfl
  have hreleases : IsReadAs d (joinWith "\n" (releases.map (renderRelease site)))
      (inLines (releases.map fun release => [releasePart d site release])) :=
    hP.joinWith (by decide) fun release hrelease =>
      renderRelease_parts hP ((h release hrelease).hasParts d)
  exact ⟨(htitle.append hreleases).beforeTag.readHtml,
    fun release hrelease => (h release hrelease).showsTexts d⟩

/-- Releases with all kinds of markup: lists in items, tags in capitals, tags without an end,
comments, and a sign that starts no tag. Their plain texts have quotes and angle brackets that end
no tag. -/
def richReleases : List Release :=
  [⟨"v1 > \"v0\"", ["<P>A <br> b < c</P>", "<!-- </p> -->", "x &lt; y"],
      [⟨"'Fixes'", ["<ul><li>one</li>\n<li title='>'>two</li></ul>", "",
          "<div><h4>Binaries</h4></div> <"]⟩,
        ⟨"", []⟩],
      [("macOS", []), ("Linux >", ["x86_64", ""])]⟩,
    ⟨"", [], [], []⟩]

theorem readHtml_content_richReleases :
    (∀ release ∈ richReleases, IsListable {} release) ∧
      readHtml .standard (content {} richReleases) = some (contentParts .standard {} richReleases) ∧
        ∀ release ∈ richReleases, ShowsTexts .standard {} release := by
  have hlistable : ∀ release ∈ richReleases, IsListable {} release := by
    simp only [richReleases, List.forall_mem_cons]
    refine ⟨⟨?_, ?_, by decide, by decide +kernel, by decide +kernel⟩,
      ⟨?_, ?_, by decide, by decide, by decide⟩, fun _ h => absurd h List.not_mem_nil⟩
    all_goals exact ⟨by decide, by decide, by decide, by decide, by decide⟩
  exact ⟨hlistable, readHtml_content hlistable .standard⟩

/-! ## 4. Releases with plain texts only -/

section

variable {d : Decoder} {site : SiteConfig} {release : Release}

/-- Where only characters are between tags, all texts can be written as they stand. -/
theorem hasParts_isWrittenAs (hintro : release.intro = [])
    (hitems : ∀ s ∈ release.sections, s.items = []) :
    HasParts IsWrittenAs d site release := by
  constructor
  · exact .text _
  · rw [hintro]
    exact fun _ h => absurd h List.not_mem_nil
  · exact fun s _ => .text _
  · intro s hs item hitem
    rw [hitems s hs] at hitem
    exact absurd hitem List.not_mem_nil
  · exact .text _

theorem partsShown_sectionParts {read : List Char} {s : ReleaseSection} (hs : s.items = [])
    {rest : List Part} :
    PartsShown d read (sectionParts d s ++ rest) ↔
      IsShown d read ∧ IsShown d s.heading.toList ∧ PartsShown d [] rest := by
  have hlist : PartsShown d [] (inLines (s.items.map fun item =>
      [.element "li" [] (partsOf d item)])) := by
    rw [hs]
    exact isShown_nil
  simp only [sectionParts, List.cons_append, List.nil_append, partsShown_element,
    partsShown_textParts, hlist, isShown_nil, true_and]

/-- The sections of a release, where some characters have just been passed. -/
theorem partsShown_sections {first : ReleaseSection} {others : List ReleaseSection}
    (hitems : ∀ s ∈ first :: others, s.items = []) {rest : List Part} (read : List Char) :
    PartsShown d read (inLines ((first :: others).map (sectionParts d)) ++ rest) ↔
      IsShown d read ∧ (∀ s ∈ first :: others, IsShown d s.heading.toList) ∧
        PartsShown d [] rest := by
  induction others generalizing first read with
  | nil =>
    rw [List.forall_mem_singleton] at hitems ⊢
    exact partsShown_sectionParts hitems
  | cons next others ih =>
    rw [List.forall_mem_cons] at hitems
    have hlineEnd : IsShown d "\n".toList := isShown_of_plain d (by decide) (by decide)
    have hinLines : inLines ((first :: next :: others).map (sectionParts d)) ++ rest =
        sectionParts d first ++ (textParts "\n" ++
          (inLines ((next :: others).map (sectionParts d)) ++ rest)) := by
      rw [List.map_cons, List.map_cons, inLines, joinLists, List.append_assoc, List.append_assoc]
      rfl
    rw [hinLines, partsShown_sectionParts hitems.1, partsShown_text, List.nil_append, ih hitems.2,
      List.forall_mem_cons (a := first)]
    simp only [hlineEnd, true_and, and_assoc]

theorem partsShown_binariesParts :
    PartsShown d [] (binariesParts site release) ↔ IsShown d (blockText site release).toList := by
  rw [binariesParts]
  cases hbinaries : release.binaries with
  | nil =>
    have hempty : (blockText site release).toList = [] := by
      rw [blockText, hbinaries]
      rfl
    rw [hempty]
    exact Iff.rfl
  | cons platform rest =>
    have htitle : IsShown d "Binaries".toList := isShown_of_plain d (by decide) (by decide)
    simp only [List.isEmpty_cons, Bool.false_eq_true, if_false, partsShown_element,
      partsShown_textParts, partsShown_nil, isShown_nil, htitle, true_and, and_true]

theorem partsShown_releasePart (hintro : release.intro = [])
    (hitems : ∀ s ∈ release.sections, s.items = []) :
    PartsShown d [] [releasePart d site release] ↔ ShowsTexts d site release := by
  have hsections : PartsShown d [] (inLines (release.sections.map (sectionParts d)) ++
        binariesParts site release) ↔
      (∀ s ∈ release.sections, IsShown d s.heading.toList) ∧
        IsShown d (blockText site release).toList := by
    cases hall : release.sections with
    | nil =>
      have hnone : ∀ s ∈ ([] : List ReleaseSection), IsShown d s.heading.toList := nofun
      exact partsShown_binariesParts.trans (and_iff_right hnone).symm
    | cons first others =>
      rw [partsShown_sections (hall ▸ hitems), partsShown_binariesParts]
      exact and_iff_right isShown_nil
  rw [releasePart, hintro, List.flatMap_nil, List.nil_append]
  simp only [partsShown_element, partsShown_textParts, partsShown_nil, isShown_nil, hsections,
    true_and, and_true]
  exact ⟨fun ⟨hversion, hheading, hblock⟩ => ⟨hversion, hheading, hblock⟩,
    fun ⟨hversion, hheading, hblock⟩ => ⟨hversion, hheading, hblock⟩⟩

end

/-- A release without paragraphs and items is read as its version, its headings and the lines of its
programs between the tags of the page, just if each of these texts is shown as it stands. -/
theorem readShown_renderRelease_iff {release : Release} (hintro : release.intro = [])
    (hitems : ∀ s ∈ release.sections, s.items = []) (d : Decoder) (site : SiteConfig) :
    readShown d (renderRelease site release) = some [releasePart d site release] ↔
      ShowsTexts d site release := by
  have hwritten : IsWrittenAs (renderRelease site release) [releasePart d site release] :=
    renderRelease_parts IsWrittenAs.isCompositional (hasParts_isWrittenAs hintro hitems)
  rw [hwritten.readShown_iff, partsShown_releasePart hintro hitems]

/-- A release whose texts have signs that start no tag and no reference. -/
def plainRelease : Release :=
  ⟨"v2 <- v1", [], [⟨"R & D", []⟩, ⟨"", []⟩], [("macOS <= 12", ["x86_64"]), ("&", [])]⟩

theorem readShown_renderRelease_plainRelease :
    plainRelease.intro = [] ∧ (∀ s ∈ plainRelease.sections, s.items = []) ∧
      readShown .standard (renderRelease {} plainRelease) =
        some [releasePart .standard {} plainRelease] := by
  have hintro : plainRelease.intro = [] := rfl
  have hitems : ∀ s ∈ plainRelease.sections, s.items = [] := by decide
  have hshows : ShowsTexts .standard {} plainRelease := by
    refine ⟨⟨by decide, by decide⟩, ?_, ⟨by decide +kernel, by decide +kernel⟩⟩
    simp only [plainRelease, List.forall_mem_cons]
    exact ⟨⟨by decide, by decide⟩, ⟨by decide, by decide⟩, fun _ h => absurd h List.not_mem_nil⟩
  exact ⟨hintro, hitems, (readShown_renderRelease_iff hintro hitems .standard {}).mpr hshows⟩

/-- A release with the name of a type in a heading. -/
def genericRelease : Release :=
  ⟨"v1", [], [⟨"Vec<T> & co", []⟩], []⟩

/-- The name of the type is read as a tag. -/
theorem not_readShown_renderRelease_genericRelease :
    readShown .standard (renderRelease {} genericRelease) ≠
      some [releasePart .standard {} genericRelease] := by
  rw [Ne, readShown_eq_some_iff]
  decide +kernel

end StaticSite.Changelog
