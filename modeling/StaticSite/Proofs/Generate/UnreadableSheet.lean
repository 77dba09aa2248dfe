/-
StaticSite.Proofs.Generate.UnreadableSheet — runs over a stylesheet that cannot be read.

Three things keep the text of a stylesheet from being read: its file is
unavailable, the bytes of the file are not the UTF-8 of a text, or no file
can have its path. All pages of a run then fail alike, for none of them
changes a file. They are reported in the first case, unless the path of one
cannot be shown (`generateFrom_of_unavailable`); in the others the first
page ends the run.

So it is an unavailable file whenever a stylesheet cannot be read just if a
file can have the path and the bytes that are read there, if any are, are
those of a text; and all pages of a run over such a stylesheet are reported
just if their paths can be shown (`Stylesheet.givesOrUnavailable_iff`).
-/
import Mathlib.Data.List.TakeWhile
import StaticSite.Proofs.Generate.FirstFailure

namespace StaticSite

open FileSystem
open StaticSite.Text

/-! ## 1. Reading a text -/

/-- A file can have the path, and if one can be read there, its bytes are the UTF-8 of a text. -/
structure FileSystem.IsTextPath (fs : FileSystem) (p : Path) : Prop where
  valid : p.isValid = true
  isText : ∀ bytes, fs.readBytes p = .ok bytes → ∃ raw, encodeUtf8 raw = bytes

namespace FileSystem

variable {fs : FileSystem} {p : Path}

theorem readText_of_text {raw : String} (h : fs.readBytes p = .ok (encodeUtf8 raw)) :
    fs.readText p = .ok (String.ofList (unifyLineEnds raw.toList)) :=
  readText_ok_iff.mpr
    ⟨_, h, textOf?_eq_some_iff.mpr ⟨raw, decodeUtf8_eq_some_iff.mpr rfl, rfl⟩⟩

theorem readText_of_not_text {bytes : ByteArray} (h : fs.readBytes p = .ok bytes)
    (hbytes : ¬ ∃ raw, encodeUtf8 raw = bytes) : fs.readText p = .error .notText := by
  have hnone : decodeUtf8 bytes = none := by
    cases hdecode : decodeUtf8 bytes with
    | none => rfl
    | some raw => exact absurd ⟨raw, decodeUtf8_eq_some_iff.mp hdecode⟩ hbytes
  simp only [readText, h, textOf?, hnone]

theorem readText_of_unavailable {cause : FileError} (h : fs.readBytes p = .error cause)
    (hvalid : p.isValid = true) :
    fs.readText p = .error (.access (.unavailable ⟨p, cause⟩)) := by
  have hcause : cause ≠ .invalidPath := by
    rintro rfl
    simp [(readBytes_invalidPath_iff fs p).mp h] at hvalid
  cases cause with
  | invalidPath => exact absurd rfl hcause
  | _ => simp only [readText, h, AccessError.of]

theorem readText_of_not_valid (h : p.isValid = false) :
    fs.readText p = .error (.access .invalidPath) := by
  simp only [readText, (readBytes_invalidPath_iff fs p).mpr h, AccessError.of]

/-- A path to a text is read, or its file is unavailable. -/
theorem IsTextPath.readText_cases (h : fs.IsTextPath p) :
    (∃ raw, fs.readBytes p = .ok (encodeUtf8 raw)) ∨
      ∃ cause, fs.readText p = .error (.access (.unavailable ⟨p, cause⟩)) := by
  cases hbytes : fs.readBytes p with
  | ok bytes =>
    obtain ⟨raw, rfl⟩ := h.isText bytes hbytes
    exact Or.inl ⟨raw, rfl⟩
  | error cause => exact Or.inr ⟨cause, readText_of_unavailable hbytes h.valid⟩

/-- Any other path is not read either, for a reason that is not in its file being unavailable. -/
theorem readText_of_not_isTextPath (h : ¬ fs.IsTextPath p) :
    ∃ e, fs.readText p = .error e ∧ (PageError.stylesheet e).resource? = none := by
  cases hvalid : p.isValid with
  | false => exact ⟨.access .invalidPath, readText_of_not_valid hvalid, rfl⟩
  | true =>
    obtain ⟨bytes, hbytes, hnot⟩ :
        ∃ bytes, fs.readBytes p = .ok bytes ∧ ¬ ∃ raw, encodeUtf8 raw = bytes := by
      by_contra hno
      refine h ⟨hvalid, fun bytes hbytes => ?_⟩
      by_contra hraw
      exact hno ⟨bytes, hbytes, hraw⟩
    exact ⟨.notText, readText_of_not_text hbytes hnot, rfl⟩

end FileSystem

/-- The stylesheet gives the decoded content of its file, or says that the file is unavailable. -/
inductive Stylesheet.GivesOrUnavailable (sheet : Stylesheet) (fs : FileSystem) : Prop where
  | gives (raw : String) (hfile : fs.readBytes sheet.path = .ok (encodeUtf8 raw))
      (htext : (sheet.text fs).2 = .ok (String.ofList (unifyLineEnds raw.toList)))
  | unavailable (cause : FileError)
      (htext : (sheet.text fs).2 = .error (.access (.unavailable ⟨sheet.path, cause⟩)))

namespace Stylesheet

variable {fs : FileSystem} {p : Path}

theorem givesOrUnavailable_of_isTextPath (h : fs.IsTextPath p) :
    (unread p).GivesOrUnavailable fs := by
  rcases h.readText_cases with ⟨raw, hfile⟩ | ⟨cause, hread⟩
  · exact .gives raw hfile (by rw [text_unread_of_ok (readText_of_text hfile)])
  · exact .unavailable cause (by rw [text_unread_of_error hread, unread])

theorem GivesOrUnavailable.isTextPath (h : (unread p).GivesOrUnavailable fs) :
    fs.IsTextPath p := by
  by_contra hnot
  obtain ⟨e, hread, hnone⟩ := readText_of_not_isTextPath hnot
  have htext := text_unread_of_error hread
  rcases h with ⟨raw, -, hgiven⟩ | ⟨cause, hgiven⟩
  · rw [htext] at hgiven
    cases hgiven
  · rw [htext, Except.error.injEq] at hgiven
    simp [hgiven, PageError.resource?, AccessError.resource?] at hnone

end Stylesheet

/-! ## 2. Runs -/

/-- A run comes to its pages with these files. -/
structure ComesToPages (start : FileSystem) (request : RunRequest) (site : SiteConfig)
    (pages : List Page) (fs : FileSystem) : Prop where
  loads : runSite start request = .ok site
  asks : requestedPages request.page = .ok pages
  creates : start.makeDirectories site.outputDir = (fs, none)

/-- A run reports each of its pages as failed for the same file. -/
structure FailsEach (site : SiteConfig) (pages : List Page) (resource : Unavailable)
    (run : RunResult) : Prop where
  reports : run.reports = pages.map fun page => .failed (page.target site) resource
  failure : run.failure = some (.unavailable resource)

/-- Can the path of the file of a page be shown? -/
def Page.isShown (fs : FileSystem) (site : SiteConfig) (page : Page) : Bool :=
  (fs.shown? (page.target site)).isSome

/-- A run reports its pages as failed for the same file, up to the first one whose path cannot be
shown, and ends with that one. -/
structure FailsShown (fs : FileSystem) (site : SiteConfig) (pages : List Page)
    (resource : Unavailable) (run : RunResult) : Prop where
  ends : ∃ page ∈ pages, page.isShown fs site = false
  reports : run.reports =
    (pages.takeWhile (Page.isShown fs site)).map fun page => .failed (page.target site) resource
  failure : run.failure = some (.aborted .unshown)

section

variable {site : SiteConfig} {start fs : FileSystem} {request : RunRequest} {pages : List Page}
  {e : ReadError}

theorem ComesToPages.generateSite_eq (h : ComesToPages start request site pages fs) :
    generateSite start request = (generateFrom site fs fs pages).toRun := by
  have hmade : (start.makeDirectories site.outputDir).2 = none := by rw [h.creates]
  rw [generateSite_of_directory h.loads h.asks hmade, prepared, h.creates]

/-- With an unavailable stylesheet the pages of the loop are reported, up to the first one whose
path cannot be shown. -/
theorem generateFrom_of_unavailable (h : start.readText site.baseStylesheet = .error e)
    {resource : Unavailable} (he : (PageError.stylesheet e).resource? = some resource)
    (pages : List Page) :
    generateFrom site start fs pages =
      ⟨fs, (pages.takeWhile (Page.isShown fs site)).map fun page =>
          .failed (page.target site) resource,
        if pages.all (Page.isShown fs site) then none else some .unshown⟩ := by
  induction pages with
  | nil => rfl
  | cons page rest ih =>
    have hs : page.stepFrom site start fs = (fs, some (.stylesheet e)) :=
      page.stepFrom_of_no_stylesheet h
    have hof : PageReport.of (page.target site) (some (.stylesheet e)) =
        .ok (.failed (page.target site) resource) := by simp only [PageReport.of, he]
    cases hshown : fs.shown? (page.target site) with
    | some shown =>
      have hr := reportOn_eq_ok_iff.mpr ⟨hof, by rw [hshown]; rfl⟩
      rw [generateFrom_of_report hs hr, ih]
      simp [PagesResult.withReport, Page.isShown, hshown]
    | none =>
      have hr := reportOn_eq_error_iff.mpr (Or.inr ⟨⟨_, hof⟩, hshown, rfl⟩)
      rw [generateFrom_of_abort hs hr]
      simp [Page.isShown, hshown]

theorem ComesToPages.failsEach (h : ComesToPages start request site pages fs)
    (hread : fs.readText site.baseStylesheet = .error e) {resource : Unavailable}
    (he : (PageError.stylesheet e).resource? = some resource)
    (hshown : pages.all (Page.isShown fs site) = true) :
    FailsEach site pages resource (generateSite start request) := by
  rw [h.generateSite_eq, generateFrom_of_unavailable hread he, PagesResult.toRun, if_pos hshown,
    List.takeWhile_eq_self_iff.mpr (List.all_eq_true.mp hshown)]
  refine ⟨rfl, ?_⟩
  cases pages with
  | nil => exact absurd rfl (requestedPages_ne_nil h.asks)
  | cons page rest => rfl

theorem ComesToPages.failsShown (h : ComesToPages start request site pages fs)
    (hread : fs.readText site.baseStylesheet = .error e) {resource : Unavailable}
    (he : (PageError.stylesheet e).resource? = some resource)
    (hshown : pages.all (Page.isShown fs site) = false) :
    FailsShown fs site pages resource (generateSite start request) := by
  rw [h.generateSite_eq, generateFrom_of_unavailable hread he, PagesResult.toRun, hshown]
  exact ⟨by simpa using hshown, rfl, rfl⟩

/-- With a stylesheet that cannot be read for another reason the run ends at its first page. -/
theorem ComesToPages.aborts (h : ComesToPages start request site pages fs)
    (hread : fs.readText site.baseStylesheet = .error e)
    (he : (PageError.stylesheet e).resource? = none) :
    generateSite start request = ⟨fs, [], some (.aborted (.page (.stylesheet e)))⟩ := by
  rw [h.generateSite_eq]
  cases pages with
  | nil => exact absurd rfl (requestedPages_ne_nil h.asks)
  | cons page rest =>
    have hr : fs.reportOn (page.target site) (some (.stylesheet e)) =
        .error (.page (.stylesheet e)) :=
      reportOn_eq_error_iff.mpr (Or.inl ⟨_, rfl, he, rfl⟩)
    rw [generateFrom_of_abort (page.stepFrom_of_no_stylesheet hread) hr]
    rfl

end

/-! ## 3. Unavailable or not -/

/-- An unread stylesheet gives its text, or else says that its file is unavailable, just if a file
can have its path and holds a text if it can be read. A run over such a stylesheet, if that cannot
be read, reports each of its pages as failed if all their paths can be shown, and the first ones
otherwise; over any other stylesheet that cannot be read it ends without a report. -/
theorem Stylesheet.givesOrUnavailable_iff (fs : FileSystem) (p : Path) :
    ((unread p).GivesOrUnavailable fs ↔ fs.IsTextPath p) ∧
      ∀ (start : FileSystem) (request : RunRequest) (site : SiteConfig) (pages : List Page)
        (e : ReadError), ComesToPages start request site pages fs → site.baseStylesheet = p →
          fs.readText p = .error e →
        (fs.IsTextPath p ∧ ∃ cause,
            ((∀ page ∈ pages, page.isShown fs site = true) ∧
                FailsEach site pages ⟨p, cause⟩ (generateSite start request)) ∨
              FailsShown fs site pages ⟨p, cause⟩ (generateSite start request)) ∨
          ¬ fs.IsTextPath p ∧
            generateSite start request = ⟨fs, [], some (.aborted (.page (.stylesheet e)))⟩ := by
  refine ⟨⟨GivesOrUnavailable.isTextPath, givesOrUnavailable_of_isTextPath⟩, ?_⟩
  rintro start request site pages e hcomes rfl hread
  by_cases htext : fs.IsTextPath site.baseStylesheet
  · refine Or.inl ⟨htext, ?_⟩
    rcases htext.readText_cases with ⟨raw, hfile⟩ | ⟨cause, hcause⟩
    · rw [readText_of_text hfile] at hread
      cases hread
    · refine ⟨cause, ?_⟩
      cases hshown : pages.all (Page.isShown fs site) with
      | true => exact Or.inl ⟨List.all_eq_true.mp hshown, hcomes.failsEach hcause rfl hshown⟩
      | false => exact Or.inr (hcomes.failsShown hcause rfl hshown)
  · obtain ⟨e', hread', hnone⟩ := readText_of_not_isTextPath htext
    rw [hread', Except.error.injEq] at hread
    subst hread
    exact Or.inr ⟨htext, hcomes.aborts hread' hnone⟩

/-- The configuration of a site whose stylesheet nobody has made. -/
def bareSite : SiteConfig :=
  { baseStylesheet := .ofText "none.css" }

/-- The files of such a site. -/
def bareFiles : FileSystem :=
  smallSystem "paths:\n  base_stylesheet: none.css\n"

theorem Stylesheet.givesOrUnavailable_iff_bareSite :
    ComesToPages bareFiles {} bareSite registry (bareFiles.prepared bareSite) ∧
      (unread bareSite.baseStylesheet).GivesOrUnavailable (bareFiles.prepared bareSite) ∧
      ∃ cause, FailsEach bareSite registry ⟨bareSite.baseStylesheet, cause⟩
        (generateSite bareFiles {}) := by
  have hcomes : ComesToPages bareFiles {} bareSite registry (bareFiles.prepared bareSite) := by
    have hmade : (bareFiles.makeDirectories bareSite.outputDir).2 = none := by decide +kernel
    exact ⟨by decide +kernel, rfl, by rw [← hmade, prepared]⟩
  have hmissing : (bareFiles.prepared bareSite).readBytes bareSite.baseStylesheet =
      .error .notFound := by decide +kernel
  have htext : (bareFiles.prepared bareSite).IsTextPath bareSite.baseStylesheet :=
    ⟨by decide, fun bytes hbytes => by simp [hmissing] at hbytes⟩
  obtain ⟨hgives, hruns⟩ :=
    givesOrUnavailable_iff (bareFiles.prepared bareSite) bareSite.baseStylesheet
  refine ⟨hcomes, hgives.mpr htext, ?_⟩
  rcases hruns bareFiles {} bareSite registry _ hcomes rfl
    (readText_of_unavailable hmissing htext.valid) with
    ⟨-, cause, ⟨-, hfails⟩ | ⟨⟨page, hpage, hunshown⟩, -, -⟩⟩ | ⟨hnot, -⟩
  · exact ⟨cause, hfails⟩
  · have hshown : ∀ page ∈ registry,
        page.isShown (bareFiles.prepared bareSite) bareSite = true := by decide +kernel
    simp [hshown page hpage] at hunshown
  · exact absurd htext hnot

/-- A working directory with a stylesheet that holds a single byte, with which no text starts. -/
def brokenSheet : FileSystem :=
  (smallSystem "").put ["w", "base.css"] (.file ⟨#[0xff]⟩)

/-- The stylesheet can be opened and is not the text of anything. So its file is not unavailable,
and the run that needs it reports none of its three pages. -/
theorem Stylesheet.text_brokenSheet :
    brokenSheet.readBytes (.ofText "base.css") = .ok ⟨#[0xff]⟩ ∧
      (unread (.ofText "base.css")).text brokenSheet =
        (unread (.ofText "base.css"), .error .notText) ∧
      ¬ (unread (.ofText "base.css")).GivesOrUnavailable brokenSheet ∧
      requestedPages none = .ok registry ∧ (generateSite brokenSheet {}).reports = [] ∧
      (generateSite brokenSheet {}).failure =
        some (.aborted (.page (.stylesheet .notText))) := by
  have htext : (unread (.ofText "base.css")).text brokenSheet =
      (unread (.ofText "base.css"), .error .notText) :=
    text_unread_of_error (by decide +kernel)
  refine ⟨by decide +kernel, htext, ?_, rfl, by decide +kernel, by decide +kernel⟩
  rintro (⟨raw, -, hgiven⟩ | ⟨cause, hgiven⟩)
  all_goals
    rw [htext] at hgiven
    cases hgiven

end StaticSite
