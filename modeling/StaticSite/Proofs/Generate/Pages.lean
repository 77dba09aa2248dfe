/-
StaticSite.Proofs.Generate.Pages — the loop over the pages, without the shared stylesheet.

The pages of a run share a stylesheet that keeps its text once it has been
read. `Stylesheet.Follows` is the invariant of the loop: an unread
stylesheet means that no file has changed since the run began, as no page
is written without its text. So every page sees the text that the
stylesheet had at the start, and the loop is `generateFrom`, in which the
stylesheet is no longer passed on (`generatePages_unread`).

One page then changes the files in one of two ways only
(`Page.stepFrom_cases`): its document is put at the place that its path
leads to, or nothing changes.
-/
import StaticSite.Generate.Run
import StaticSite.Proofs.Files.AtomicWrite
import StaticSite.Proofs.Files.Directories
import StaticSite.Proofs.Files.Reading

namespace StaticSite

/-! ## 1. One page -/

/-- The path of a page's file. -/
def Page.target (page : Page) (site : SiteConfig) : Path :=
  site.outputPath page.frame.key page.frame.filename

/-- The document of a page: the stylesheet as it was at the start of the run, and the content as
the files give it now. -/
def Page.documentIn (page : Page) (site : SiteConfig) (start fs : FileSystem) :
    Except PageError String :=
  match start.readText site.baseStylesheet with
  | .error e => .error (.stylesheet e)
  | .ok css =>
    match page.content site fs with
    | .error e => .error (.content e)
    | .ok content => .ok (page.frame.document site css content)

/-- The files after a page, and why it has no new file, if it has none. -/
def Page.stepFrom (page : Page) (site : SiteConfig) (start fs : FileSystem) :
    FileSystem × Option PageError :=
  match page.documentIn site start fs with
  | .error e => (fs, some e)
  | .ok text =>
    let written := fs.writeText (page.target site) text
    (written.1, written.2.map .output)

namespace Page

variable {page : Page} {site : SiteConfig} {start fs : FileSystem}

theorem documentIn_ok_iff {text : String} :
    page.documentIn site start fs = .ok text ↔
      ∃ css content, start.readText site.baseStylesheet = .ok css ∧
        page.content site fs = .ok content ∧ text = page.frame.document site css content := by
  rw [documentIn]
  cases start.readText site.baseStylesheet with
  | error e => simp
  | ok css => cases page.content site fs <;> simp [eq_comm]

theorem stepFrom_of_error {e : PageError} (h : page.documentIn site start fs = .error e) :
    page.stepFrom site start fs = (fs, some e) := by
  simp only [stepFrom, h]

theorem stepFrom_of_place {text : String} {l : Location}
    (h : page.documentIn site start fs = .ok text)
    (hplace : fs.writePlace? (page.target site) = some l) :
    page.stepFrom site start fs = (fs.put l (.file (Text.encodeUtf8 text)), none) := by
  simp only [stepFrom, h, FileSystem.writeText_of_encode (DocumentText.encode?_string text),
    FileSystem.writeAtomic_of_place hplace, Option.map_none]

theorem stepFrom_of_no_place {text : String} (h : page.documentIn site start fs = .ok text)
    (hplace : fs.writePlace? (page.target site) = none) :
    ∃ e, page.stepFrom site start fs = (fs, some (.output e)) ∧
      (e.resource?.isSome = true ↔ (page.target site).isValid = true) := by
  obtain ⟨e, hwrite, hinvalid⟩ :=
    FileSystem.writeAtomic_of_no_place hplace (Text.encodeUtf8 text)
  refine ⟨.access (.of (page.target site) e), ?_, ?_⟩
  · simp only [stepFrom, h, FileSystem.writeText_of_encode (DocumentText.encode?_string text),
      hwrite, Option.map_some]
  · rw [WriteError.resource?, AccessError.resource?_of_isSome, ne_eq, hinvalid,
      Bool.not_eq_false]

/-- A page puts its document where its path leads to, or fails and changes nothing. -/
theorem stepFrom_cases (page : Page) (site : SiteConfig) (start fs : FileSystem) :
    (∃ text l, page.documentIn site start fs = .ok text ∧
      fs.writePlace? (page.target site) = some l ∧
      page.stepFrom site start fs = (fs.put l (.file (Text.encodeUtf8 text)), none)) ∨
    ∃ e, page.stepFrom site start fs = (fs, some e) := by
  cases hdocument : page.documentIn site start fs with
  | error e => exact Or.inr ⟨e, stepFrom_of_error hdocument⟩
  | ok text =>
    cases hplace : fs.writePlace? (page.target site) with
    | some l => exact Or.inl ⟨text, l, rfl, rfl, stepFrom_of_place hdocument hplace⟩
    | none =>
      obtain ⟨e, hstep, -⟩ := stepFrom_of_no_place hdocument hplace
      exact Or.inr ⟨.output e, hstep⟩

end Page

/-! ## 2. The stylesheet of a run -/

/-- A stylesheet in the course of a run: it holds the text that the file had at the start, or it
is unread and no file has changed. -/
structure Stylesheet.Follows (sheet : Stylesheet) (p : Path) (start fs : FileSystem) : Prop where
  path : sheet.path = p
  text : (sheet.cached = none ∧ fs = start) ∨
    ∃ css, sheet.cached = some css ∧ start.readText p = .ok css

namespace Stylesheet

variable {sheet : Stylesheet} {p : Path} {start fs : FileSystem}

theorem follows_unread (p : Path) (start : FileSystem) : (unread p).Follows p start start :=
  ⟨rfl, Or.inl ⟨rfl, rfl⟩⟩

/-- Asking for the text gives what the file held at the start, and keeps it. -/
theorem Follows.text_eq (h : sheet.Follows p start fs) :
    ∃ after : Stylesheet, sheet.text fs = (after, start.readText p) ∧ after.Follows p start fs ∧
      ∀ css, start.readText p = .ok css → ∀ fs', after.Follows p start fs' := by
  obtain ⟨rfl, ⟨hcached, rfl⟩ | ⟨css, hcached, hread⟩⟩ := h
  · cases hread : fs.readText sheet.path with
    | error e =>
      refine ⟨sheet, ?_, ⟨rfl, Or.inl ⟨hcached, rfl⟩⟩, fun css h => by cases h⟩
      simp only [Stylesheet.text, hcached, hread]
    | ok css =>
      refine ⟨⟨sheet.path, some css⟩, ?_, ⟨rfl, Or.inr ⟨css, rfl, hread⟩⟩,
        fun _ _ _ => ⟨rfl, Or.inr ⟨css, rfl, hread⟩⟩⟩
      simp only [Stylesheet.text, hcached, hread]
  · refine ⟨sheet, ?_, ⟨rfl, Or.inr ⟨css, hcached, hread⟩⟩,
      fun _ _ _ => ⟨rfl, Or.inr ⟨css, hcached, hread⟩⟩⟩
    simp only [Stylesheet.text, hcached, hread]

end Stylesheet

/-- Generating a page with the stylesheet of the run is its step, and the stylesheet follows. -/
theorem Page.generate_eq (page : Page) {site : SiteConfig} {sheet : Stylesheet}
    {start fs : FileSystem} (h : sheet.Follows site.baseStylesheet start fs) :
    ∃ after : Stylesheet, page.generate site sheet fs (page.target site) =
        ⟨after, (page.stepFrom site start fs).1, (page.stepFrom site start fs).2⟩ ∧
      after.Follows site.baseStylesheet start (page.stepFrom site start fs).1 := by
  obtain ⟨after, htext, hfollows, hkept⟩ := h.text_eq
  refine ⟨after, ?_⟩
  cases hread : start.readText site.baseStylesheet with
  | error e =>
    have hstep : page.stepFrom site start fs = (fs, some (.stylesheet e)) :=
      stepFrom_of_error (by simp only [documentIn, hread])
    rw [hstep]
    refine ⟨?_, hfollows⟩
    simp only [generate_render, render_eq, htext, hread]
  | ok css =>
    refine ⟨?_, hkept css hread _⟩
    cases hcontent : page.content site fs with
    | error e =>
      have hstep : page.stepFrom site start fs = (fs, some (.content e)) :=
        stepFrom_of_error (by simp only [documentIn, hread, hcontent])
      simp only [generate_render, render_eq, htext, hread, hcontent, hstep]
    | ok content =>
      simp only [generate_render, render_eq, stepFrom, documentIn, htext, hread, hcontent]

/-! ## 3. Reports -/

@[simp] theorem PageReport.isSuccess_wrote (p : Path) : (wrote p).isSuccess = true := rfl

@[simp] theorem PageReport.isSuccess_failed (p : Path) (resource : Unavailable) :
    (failed p resource).isSuccess = false := rfl

@[simp] theorem PageReport.path_wrote (p : Path) : (wrote p).path = p := rfl

@[simp] theorem PageReport.path_failed (p : Path) (resource : Unavailable) :
    (failed p resource).path = p := rfl

section

variable {fs : FileSystem} {p : Path} {failure : Option PageError} {report : PageReport}

/-- Only an absolute path cannot be shown, and only when the working directory is there no more. -/
theorem FileSystem.shown?_isSome_iff :
    (fs.shown? p).isSome = true ↔ p.isAbsolute = false ∨ fs.isAdrift = false := by
  rw [shown?, herePath?]
  cases p.isAbsolute <;> cases fs.isAdrift <;> simp

theorem FileSystem.reportOn_eq_ok_iff :
    fs.reportOn p failure = .ok report ↔
      PageReport.of p failure = .ok report ∧ (fs.shown? p).isSome = true := by
  rw [reportOn]
  cases PageReport.of p failure <;> cases fs.shown? p <;> simp

/-- A page ends a run for an error that is not about a file that cannot be read or written, or
because its path cannot be shown. -/
theorem FileSystem.reportOn_eq_error_iff {cause : RunAbort} :
    fs.reportOn p failure = .error cause ↔
      (∃ e, failure = some e ∧ e.resource? = none ∧ cause = .page e) ∨
        ((∃ report, PageReport.of p failure = .ok report) ∧ fs.shown? p = none ∧
          cause = .unshown) := by
  rw [reportOn]
  cases failure with
  | none => cases fs.shown? p <;> simp [PageReport.of, eq_comm]
  | some e =>
    cases he : e.resource? <;> cases fs.shown? p <;> simp [PageReport.of, he, eq_comm]

/-- A report is on the file of its page, and says that it was written just if there was no error. -/
theorem PageReport.path_of (h : PageReport.of p failure = .ok report) :
    report.path = p ∧ (report.isSuccess = true ↔ failure = none) := by
  cases failure with
  | none =>
    cases h
    exact ⟨rfl, by simp⟩
  | some e =>
    cases he : e.resource? with
    | none => simp [PageReport.of, he] at h
    | some resource =>
      simp only [PageReport.of, he, Except.ok.injEq] at h
      subst h
      exact ⟨rfl, by simp⟩

end

/-! ## 4. The loop -/

/-- The pages one after the other, with the stylesheet as it was at the start. -/
def generateFrom (site : SiteConfig) (start fs : FileSystem) : List Page → PagesResult
  | [] => ⟨fs, [], none⟩
  | page :: rest =>
    let (after, failure) := page.stepFrom site start fs
    match after.reportOn (page.target site) failure with
    | .ok report => (generateFrom site start after rest).withReport report
    | .error cause => ⟨after, [], some cause⟩

section

variable {page : Page} {site : SiteConfig} {start fs after : FileSystem} {rest : List Page}
  {failure : Option PageError}

/-- A page with a report is followed by the next one. -/
theorem generateFrom_of_report {report : PageReport}
    (h : page.stepFrom site start fs = (after, failure))
    (hreport : after.reportOn (page.target site) failure = .ok report) :
    generateFrom site start fs (page :: rest) =
      (generateFrom site start after rest).withReport report := by
  simp only [generateFrom, h, hreport]

/-- A page without one ends the loop. -/
theorem generateFrom_of_abort {cause : RunAbort}
    (h : page.stepFrom site start fs = (after, failure))
    (hreport : after.reportOn (page.target site) failure = .error cause) :
    generateFrom site start fs (page :: rest) = ⟨after, [], some cause⟩ := by
  simp only [generateFrom, h, hreport]

end

theorem generatePages_of_follows {site : SiteConfig} {sheet : Stylesheet}
    {start fs : FileSystem} (h : sheet.Follows site.baseStylesheet start fs)
    (pages : List Page) :
    generatePages site sheet fs pages = generateFrom site start fs pages := by
  induction pages generalizing sheet fs with
  | nil => rfl
  | cons page rest ih =>
    obtain ⟨after, hgenerate, hfollows⟩ := page.generate_eq h
    rcases hstep : page.stepFrom site start fs with ⟨files, failure⟩
    rw [hstep] at hgenerate hfollows
    cases hreport : files.reportOn (page.target site) failure with
    | ok report =>
      rw [generateFrom_of_report hstep hreport, ← ih hfollows]
      rw [Page.target] at hgenerate hreport
      simp only [generatePages, hgenerate, hreport]
    | error cause =>
      rw [generateFrom_of_abort hstep hreport]
      rw [Page.target] at hgenerate hreport
      simp only [generatePages, hgenerate, hreport]

/-- The loop of a run, from an unread stylesheet. -/
theorem generatePages_unread (site : SiteConfig) (start : FileSystem) (pages : List Page) :
    generatePages site (.unread site.baseStylesheet) start pages =
      generateFrom site start start pages :=
  generatePages_of_follows (Stylesheet.follows_unread site.baseStylesheet start) pages

/-! ## 5. The pages of a request -/

theorem registry_nodup : registry.Nodup := by
  decide

/-- A request is for all pages or for one. -/
theorem requestedPages_cases {key : Option String} {pages : List Page}
    (h : requestedPages key = .ok pages) : pages = registry ∨ ∃ page, pages = [page] := by
  cases key with
  | none =>
    cases h
    exact Or.inl rfl
  | some key =>
    simp only [requestedPages] at h
    split at h
    · cases h
      exact Or.inl rfl
    · split at h
      · rename_i page _
        cases h
        exact Or.inr ⟨page, rfl⟩
      · cases h

theorem requestedPages_nodup {key : Option String} {pages : List Page}
    (h : requestedPages key = .ok pages) : pages.Nodup := by
  rcases requestedPages_cases h with rfl | ⟨page, rfl⟩
  · exact registry_nodup
  · exact List.nodup_singleton page

theorem requestedPages_ne_nil {key : Option String} {pages : List Page}
    (h : requestedPages key = .ok pages) : pages ≠ [] := by
  rcases requestedPages_cases h with rfl | ⟨page, rfl⟩
  · decide
  · exact List.cons_ne_nil page []

/-! ## 6. The run -/

/-- The files once the output directory of a site has been created, as far as that worked. -/
def FileSystem.prepared (fs : FileSystem) (site : SiteConfig) : FileSystem :=
  (fs.makeDirectories site.outputDir).1

/-- What comes of some pages, as what comes of a run. -/
def PagesResult.toRun (result : PagesResult) : RunResult :=
  ⟨result.files, result.reports, result.failure?⟩

section

variable {fs : FileSystem} {request : RunRequest} {site : SiteConfig} {pages : List Page}

theorem generateSite_of_config_error {e : RunError} (h : runSite fs request = .error e) :
    generateSite fs request = ⟨fs, [], some e⟩ := by
  simp only [generateSite, h]

theorem generateSite_of_unknown_page {e : RunError} (hsite : runSite fs request = .ok site)
    (h : requestedPages request.page = .error e) :
    generateSite fs request = ⟨fs, [], some e⟩ := by
  simp only [generateSite, hsite, h]

theorem generateSite_of_no_directory {e : FileError} (hsite : runSite fs request = .ok site)
    (hpages : requestedPages request.page = .ok pages)
    (h : (fs.makeDirectories site.outputDir).2 = some e) :
    generateSite fs request = ⟨fs.prepared site, [], some (.outputDir e)⟩ := by
  have hmade : fs.makeDirectories site.outputDir = (fs.prepared site, some e) := by
    rw [← h, FileSystem.prepared]
  simp only [generateSite, hsite, hpages, hmade]

/-- A run that gets as far as its pages is the loop over them. -/
theorem generateSite_of_directory (hsite : runSite fs request = .ok site)
    (hpages : requestedPages request.page = .ok pages)
    (h : (fs.makeDirectories site.outputDir).2 = none) :
    generateSite fs request =
      (generateFrom site (fs.prepared site) (fs.prepared site) pages).toRun := by
  have hmade : fs.makeDirectories site.outputDir = (fs.prepared site, none) := by
    rw [← h, FileSystem.prepared]
  simp only [generateSite, hsite, hpages, hmade, generatePages_unread, PagesResult.toRun]

end

end StaticSite
