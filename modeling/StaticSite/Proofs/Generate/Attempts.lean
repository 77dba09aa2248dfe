/-
StaticSite.Proofs.Generate.Attempts — what happens to the pages of a run.

A run tries its pages one after the other. An attempt records the files and
the stylesheet that a page found and what came of generating it. Each
attempt hands its files and its stylesheet on to the next (`tryEach`). Only
an attempt that cannot be reported on keeps a run from its next page
(`IsCourse`): one with an error that is not about a file that cannot be read
or written, or one whose path cannot be shown.

The loop of a run has such a course, and its reports, its files and its end
are read off from it (`generatePages_course`), and those of the run with it
(`generateSite_course`). An attempt without an error
has put the whole document at the place of its page, any other has changed
no file (`Attempt.putsDocument_or_unchanged`).
-/
import StaticSite.Proofs.Generate.Resuming

namespace StaticSite

open FileSystem

/-! ## 1. Attempts -/

/-- A page that was tried: the stylesheet and the files as it found them, and what came of
generating it. -/
structure Attempt where
  page : Page
  sheet : Stylesheet
  before : FileSystem
  made : Generated

namespace Attempt

/-- Generates a page of a site into its output file. -/
def of (site : SiteConfig) (sheet : Stylesheet) (fs : FileSystem) (page : Page) : Attempt :=
  ⟨page, sheet, fs, page.generate site sheet fs (page.target site)⟩

/-- Did the attempt end without an error? -/
def succeeds (a : Attempt) : Bool :=
  a.made.failure.isNone

/-- The file that could not be read or written, if that was the error. -/
def unavailable? (a : Attempt) : Option Unavailable :=
  a.made.failure.bind PageError.resource?

/-- The report on an attempt, or why the run ends with it. -/
def outcome (site : SiteConfig) (a : Attempt) : Except RunAbort PageReport :=
  a.made.files.reportOn (a.page.target site) a.made.failure

/-- The report on an attempt, if there is one. -/
def report? (site : SiteConfig) (a : Attempt) : Option PageReport :=
  match a.outcome site with
  | .ok report => some report
  | .error _ => none

/-- Why the run ends with an attempt, if it does. -/
def abort? (site : SiteConfig) (a : Attempt) : Option RunAbort :=
  match a.outcome site with
  | .ok _ => none
  | .error cause => some cause

/-- Does the run end with an attempt? -/
def aborts (site : SiteConfig) (a : Attempt) : Bool :=
  (a.abort? site).isSome

/-- The whole document of the page is put where the path of its output file leads to. -/
def PutsDocument (a : Attempt) (site : SiteConfig) : Prop :=
  ∃ text l, (a.page.render site a.sheet a.before).2 = .ok text ∧
    a.before.resolve (a.page.target site) = .ok l ∧
    a.made.files = a.before.put l (.file (Text.encodeUtf8 text)) ∧
    a.made.files.get? l = some (.file (Text.encodeUtf8 text))

section

variable {a : Attempt} {site : SiteConfig} {report : PageReport} {cause : RunAbort}

theorem report?_of_ok (h : a.outcome site = .ok report) : a.report? site = some report := by
  rw [report?, h]

theorem report?_of_error (h : a.outcome site = .error cause) : a.report? site = none := by
  rw [report?, h]

theorem abort?_of_ok (h : a.outcome site = .ok report) : a.abort? site = none := by
  rw [abort?, h]

theorem abort?_of_error (h : a.outcome site = .error cause) : a.abort? site = some cause := by
  rw [abort?, h]

theorem aborts_of_ok (h : a.outcome site = .ok report) : a.aborts site = false := by
  rw [aborts, abort?_of_ok h, Option.isSome_none]

theorem aborts_of_error (h : a.outcome site = .error cause) : a.aborts site = true := by
  rw [aborts, abort?_of_error h, Option.isSome_some]

theorem exists_outcome_of_not_aborts (h : a.aborts site = false) :
    ∃ report, a.outcome site = .ok report := by
  cases houtcome : a.outcome site with
  | ok report => exact ⟨report, rfl⟩
  | error cause => simp [aborts_of_error houtcome] at h

/-- An attempt that is reported on succeeds or misses a file. -/
theorem outcome_ok_cases (h : a.outcome site = .ok report) :
    (a.succeeds = true ∧ a.unavailable? = none ∧ report = .wrote (a.page.target site)) ∨
      ∃ resource, a.succeeds = false ∧ a.unavailable? = some resource ∧
        report = .failed (a.page.target site) resource := by
  have hof := (reportOn_eq_ok_iff.mp h).1
  rw [succeeds, unavailable?]
  cases hfailure : a.made.failure with
  | none =>
    rw [hfailure, PageReport.of, Except.ok.injEq] at hof
    exact Or.inl ⟨rfl, rfl, hof.symm⟩
  | some e =>
    cases he : e.resource? with
    | none => simp [PageReport.of, hfailure, he] at hof
    | some resource =>
      simp only [PageReport.of, hfailure, he, Except.ok.injEq] at hof
      exact Or.inr ⟨resource, rfl, he, hof.symm⟩

theorem unavailable?_of_succeeds (h : a.succeeds = true) : a.unavailable? = none := by
  rw [succeeds, Option.isNone_iff_eq_none] at h
  rw [unavailable?, h, Option.bind_none]

theorem succeeds_of_not_aborts (h : a.aborts site = false) (hu : a.unavailable? = none) :
    a.succeeds = true := by
  obtain ⟨report, houtcome⟩ := exists_outcome_of_not_aborts h
  rcases outcome_ok_cases houtcome with ⟨hs, -⟩ | ⟨resource, -, hsome, -⟩
  · exact hs
  · rw [hu] at hsome
    cases hsome

/-- With a path that can be shown, an attempt succeeds, misses a file, or has an error of another
kind, and is reported on in the first two cases. -/
theorem outcome_cases (hshown : (a.made.files.shown? (a.page.target site)).isSome = true) :
    (a.succeeds = true ∧ a.unavailable? = none ∧
        a.outcome site = .ok (.wrote (a.page.target site))) ∨
      (∃ resource, a.succeeds = false ∧ a.unavailable? = some resource ∧
        a.outcome site = .ok (.failed (a.page.target site) resource)) ∨
      ∃ e, a.succeeds = false ∧ a.unavailable? = none ∧ a.made.failure = some e ∧
        a.outcome site = .error (.page e) := by
  cases houtcome : a.outcome site with
  | ok report =>
    rcases outcome_ok_cases houtcome with ⟨hs, hu, rfl⟩ | ⟨resource, hs, hu, rfl⟩
    · exact Or.inl ⟨hs, hu, rfl⟩
    · exact Or.inr (Or.inl ⟨resource, hs, hu, rfl⟩)
  | error cause =>
    rcases reportOn_eq_error_iff.mp houtcome with ⟨e, hfailure, he, rfl⟩ | ⟨-, hnone, -⟩
    · exact Or.inr (Or.inr ⟨e, by simp [succeeds, hfailure], by simp [unavailable?, hfailure, he],
        hfailure, rfl⟩)
    · simp [hnone] at hshown

/-- An attempt ends the run if its path cannot be shown, or for an error of another kind. -/
theorem aborts_iff :
    a.aborts site = true ↔ a.made.files.shown? (a.page.target site) = none ∨
      ∃ e, a.made.failure = some e ∧ e.resource? = none := by
  cases houtcome : a.outcome site with
  | ok report =>
    have hshown := (reportOn_eq_ok_iff.mp houtcome).2
    rcases outcome_cases hshown with ⟨hs, -⟩ | ⟨resource, -, hu, -⟩ | ⟨e, -, -, -, herror⟩
    · rw [succeeds, Option.isNone_iff_eq_none] at hs
      simp [aborts_of_ok houtcome, hs, Option.isSome_iff_ne_none.mp hshown]
    · rw [unavailable?, Option.bind_eq_some_iff] at hu
      obtain ⟨e, hfailure, he⟩ := hu
      simp [aborts_of_ok houtcome, hfailure, he, Option.isSome_iff_ne_none.mp hshown]
    · simp [houtcome] at herror
  | error cause =>
    rcases reportOn_eq_error_iff.mp houtcome with ⟨e, hfailure, he, -⟩ | ⟨-, hnone, -⟩
    · exact iff_of_true (aborts_of_error houtcome) (Or.inr ⟨e, hfailure, he⟩)
    · exact iff_of_true (aborts_of_error houtcome) (Or.inl hnone)

end

/-- An error leaves all files as they were; without one the document is in its place. -/
theorem putsDocument_or_unchanged (site : SiteConfig) (sheet : Stylesheet) (fs : FileSystem)
    (page : Page) :
    ((of site sheet fs page).succeeds = true ∧ (of site sheet fs page).PutsDocument site) ∨
      ((of site sheet fs page).succeeds = false ∧ (of site sheet fs page).made.files = fs) := by
  cases hrender : page.render site sheet fs with
  | mk after document =>
    cases document with
    | error e =>
      refine Or.inr ⟨?_, ?_⟩ <;>
        simp only [of, succeeds, Page.generate_render, hrender, Option.isNone_some]
    | ok text =>
      have hbytes := DocumentText.encode?_string text
      cases hplace : fs.writePlace? (page.target site) with
      | some l =>
        have hmade : page.generate site sheet fs (page.target site) =
            ⟨after, fs.put l (.file (Text.encodeUtf8 text)), none⟩ := by
          simp only [Page.generate_render, hrender, writeText_of_encode hbytes,
            writeAtomic_of_place hplace, Option.map_none]
        refine Or.inl ⟨?_, text, l, ?_, ?_, ?_, ?_⟩
        · simp only [of, succeeds, hmade, Option.isNone_none]
        · simp only [of, hrender]
        · exact resolve_writePlace hplace
        · simp only [of, hmade]
        · simp only [of, hmade]
          exact get?_put_self (get?_writePlace hplace) _
      | none =>
        obtain ⟨e, hwrite, -⟩ := writeAtomic_of_no_place hplace (Text.encodeUtf8 text)
        refine Or.inr ⟨?_, ?_⟩ <;>
          simp only [of, succeeds, Page.generate_render, hrender, writeText_of_encode hbytes,
            hwrite, Option.map_some, Option.isNone_some]

/-- Paths are shown after an attempt as before it. -/
theorem shown?_of (site : SiteConfig) (sheet : Stylesheet) (fs : FileSystem) (page : Page)
    (p : Path) : (of site sheet fs page).made.files.shown? p = fs.shown? p := by
  rcases putsDocument_or_unchanged site sheet fs page with
    ⟨-, text, l, -, -, hfiles, -⟩ | ⟨-, hfiles⟩ <;> rw [hfiles]
  rfl

end Attempt

/-! ## 2. The course of a run -/

/-- Some pages tried one after the other, whatever comes of them. -/
def tryEach (site : SiteConfig) (sheet : Stylesheet) (fs : FileSystem) : List Page → List Attempt
  | [] => []
  | page :: rest =>
    let a := Attempt.of site sheet fs page
    a :: tryEach site a.made.sheet a.made.files rest

/-- The files after some attempts. -/
def filesAfterAttempts (fs : FileSystem) : List Attempt → FileSystem
  | [] => fs
  | a :: rest => filesAfterAttempts a.made.files rest

section

variable {site : SiteConfig} {sheet : Stylesheet} {fs : FileSystem} {page : Page}

/-- A page that is reported on does not keep the run from the next one. -/
theorem generatePages_of_ok {report : PageReport}
    (h : (Attempt.of site sheet fs page).outcome site = .ok report) (rest : List Page) :
    generatePages site sheet fs (page :: rest) =
      (generatePages site (Attempt.of site sheet fs page).made.sheet
        (Attempt.of site sheet fs page).made.files rest).withReport report := by
  simp only [Attempt.outcome, Attempt.of, Page.target] at h
  simp only [generatePages, Attempt.of, Page.target, h]

/-- A page that is not reported on ends the run. -/
theorem generatePages_of_error {cause : RunAbort}
    (h : (Attempt.of site sheet fs page).outcome site = .error cause) (rest : List Page) :
    generatePages site sheet fs (page :: rest) =
      ⟨(Attempt.of site sheet fs page).made.files, [], some cause⟩ := by
  simp only [Attempt.outcome, Attempt.of, Page.target] at h
  simp only [generatePages, Attempt.of, Page.target, h]

end

/-- The attempts of a run over some pages: its first pages are tried in their order, up to the
last one or to one that the run ends with. -/
structure IsCourse (site : SiteConfig) (sheet : Stylesheet) (fs : FileSystem) (pages : List Page)
    (attempts : List Attempt) : Prop where
  inTurn : attempts = tryEach site sheet fs (attempts.map Attempt.page)
  first : attempts.map Attempt.page <+: pages
  goesOn : ∀ a ∈ attempts.dropLast, a.aborts site = false
  reachesEnd : attempts.map Attempt.page = pages ∨
    ∃ a, attempts.getLast? = some a ∧ a.aborts site = true

section

variable {site : SiteConfig} {sheet : Stylesheet} {fs : FileSystem} {pages rest : List Page}
  {page : Page} {attempts : List Attempt}

theorem isCourse_nil (site : SiteConfig) (sheet : Stylesheet) (fs : FileSystem) :
    IsCourse site sheet fs [] [] :=
  ⟨rfl, List.prefix_rfl, by simp, Or.inl rfl⟩

/-- An attempt that the run ends with is the end of a course. -/
theorem isCourse_of_abort (h : (Attempt.of site sheet fs page).aborts site = true)
    (rest : List Page) : IsCourse site sheet fs (page :: rest) [Attempt.of site sheet fs page] :=
  ⟨rfl, ⟨rest, rfl⟩, by simp, Or.inr ⟨_, rfl, h⟩⟩

/-- Otherwise the course goes on with the files and the stylesheet that the page has left. -/
theorem IsCourse.cons (h : (Attempt.of site sheet fs page).aborts site = false)
    (hrest : IsCourse site (Attempt.of site sheet fs page).made.sheet
      (Attempt.of site sheet fs page).made.files rest attempts) :
    IsCourse site sheet fs (page :: rest) (Attempt.of site sheet fs page :: attempts) := by
  obtain ⟨hturn, hfirst, hgoes, hend⟩ := hrest
  refine ⟨congrArg _ hturn, (List.prefix_cons_inj page).mpr hfirst, ?_, ?_⟩
  · intro a ha
    cases attempts with
    | nil => simp at ha
    | cons next more =>
      rw [List.dropLast_cons_cons] at ha
      rcases List.mem_cons.mp ha with rfl | hmem
      · exact h
      · exact hgoes a hmem
  · rcases hend with hall | ⟨a, hlast, habort⟩
    · exact Or.inl (congrArg (page :: ·) hall)
    · refine Or.inr ⟨a, ?_, habort⟩
      rw [List.getLast?_cons, hlast]
      rfl

/-- Every attempt of a course is one at a page with what it found. -/
theorem IsCourse.eq_of (h : IsCourse site sheet fs pages attempts) :
    ∀ a ∈ attempts, a = Attempt.of site a.sheet a.before a.page := by
  have hall : ∀ (pages : List Page) (sheet : Stylesheet) (fs : FileSystem),
      ∀ a ∈ tryEach site sheet fs pages, a = Attempt.of site a.sheet a.before a.page := by
    intro pages
    induction pages with
    | nil => simp [tryEach]
    | cons page rest ih =>
      intro sheet fs
      simp only [tryEach, List.forall_mem_cons]
      exact ⟨rfl, ih _ _⟩
  rw [h.inTurn]
  exact hall _ _ _

end

/-- The loop of a run has a course. Its files, its reports and its end are those of the
attempts. -/
theorem generatePages_course (site : SiteConfig) (sheet : Stylesheet) (fs : FileSystem)
    (pages : List Page) :
    ∃ attempts, IsCourse site sheet fs pages attempts ∧
      generatePages site sheet fs pages =
        ⟨filesAfterAttempts fs attempts, attempts.filterMap (Attempt.report? site),
          attempts.findSome? (Attempt.abort? site)⟩ := by
  induction pages generalizing sheet fs with
  | nil => exact ⟨[], isCourse_nil site sheet fs, rfl⟩
  | cons page rest ih =>
    cases houtcome : (Attempt.of site sheet fs page).outcome site with
    | error cause =>
      refine ⟨_, isCourse_of_abort (Attempt.aborts_of_error houtcome) rest, ?_⟩
      rw [generatePages_of_error houtcome]
      simp only [filesAfterAttempts, List.filterMap_cons, Attempt.report?_of_error houtcome,
        List.filterMap_nil, List.findSome?_cons, Attempt.abort?_of_error houtcome]
    | ok report =>
      obtain ⟨attempts, hcourse, hloop⟩ := ih (Attempt.of site sheet fs page).made.sheet
        (Attempt.of site sheet fs page).made.files
      refine ⟨_, hcourse.cons (Attempt.aborts_of_ok houtcome), ?_⟩
      rw [generatePages_of_ok houtcome, hloop]
      simp only [PagesResult.withReport, filesAfterAttempts, List.filterMap_cons,
        Attempt.report?_of_ok houtcome, List.findSome?_cons, Attempt.abort?_of_ok houtcome]

/-! ## 3. What is known of a course -/

section

variable {site : SiteConfig} {sheet : Stylesheet} {start fs : FileSystem} {pages : List Page}
  {attempts : List Attempt}

/-- A run without an end before its time has tried all pages. -/
theorem IsCourse.tries_all (h : IsCourse site sheet fs pages attempts)
    (hgoes : attempts.findSome? (Attempt.abort? site) = none) :
    attempts.map Attempt.page = pages := by
  rcases h.reachesEnd with hall | ⟨a, hlast, habort⟩
  · exact hall
  · have hnone := List.findSome?_eq_none_iff.mp hgoes a (List.mem_of_getLast? hlast)
    simp [Attempt.aborts, hnone] at habort

theorem IsCourse.putsDocument_or_unchanged (h : IsCourse site sheet fs pages attempts)
    {a : Attempt} (ha : a ∈ attempts) :
    (a.succeeds = true ∧ a.PutsDocument site) ∨ (a.succeeds = false ∧ a.made.files = a.before) := by
  have hcases := Attempt.putsDocument_or_unchanged site a.sheet a.before a.page
  rwa [← h.eq_of a ha] at hcases

/-- Paths are shown during a run as before it. -/
theorem IsCourse.shown?_eq (h : IsCourse site sheet fs pages attempts) (p : Path) :
    ∀ a ∈ attempts, a.made.files.shown? p = fs.shown? p := by
  have hall : ∀ (pages : List Page) (sheet : Stylesheet) (fs : FileSystem),
      ∀ a ∈ tryEach site sheet fs pages, a.made.files.shown? p = fs.shown? p := by
    intro pages
    induction pages with
    | nil => simp [tryEach]
    | cons page rest ih =>
      intro sheet fs
      simp only [tryEach, List.forall_mem_cons]
      have hfirst := Attempt.shown?_of site sheet fs page p
      exact ⟨hfirst, fun a ha => (ih _ _ a ha).trans hfirst⟩
  rw [h.inTurn]
  exact hall _ _ _

/-- An attempt of a run is a step of its loop, with the stylesheet as it was at the start. -/
theorem tryEach_stepFrom (h : sheet.Follows site.baseStylesheet start fs) :
    ∀ a ∈ tryEach site sheet fs pages,
      a.made.failure = (a.page.stepFrom site start a.before).2 := by
  induction pages generalizing sheet fs with
  | nil => simp [tryEach]
  | cons page rest ih =>
    obtain ⟨after, hgenerate, hfollows⟩ := page.generate_eq h
    simp only [tryEach, Attempt.of, hgenerate, List.forall_mem_cons]
    exact ⟨trivial, ih hfollows⟩

theorem IsCourse.failure_eq
    (h : IsCourse site (.unread site.baseStylesheet) start pages attempts) :
    ∀ a ∈ attempts, a.made.failure = (a.page.stepFrom site start a.before).2 := by
  rw [h.inTurn]
  exact tryEach_stepFrom (Stylesheet.follows_unread site.baseStylesheet start)

/-- The first failure that is reported is that of the first attempt that missed a file. -/
theorem firstFailure?_reports (hgoes : ∀ a ∈ attempts, a.aborts site = false) :
    firstFailure? (attempts.filterMap (Attempt.report? site)) =
      attempts.findSome? Attempt.unavailable? := by
  induction attempts with
  | nil => rfl
  | cons a rest ih =>
    rw [List.forall_mem_cons] at hgoes
    obtain ⟨report, houtcome⟩ := Attempt.exists_outcome_of_not_aborts hgoes.1
    have hreport := Attempt.report?_of_ok houtcome
    rcases Attempt.outcome_ok_cases houtcome with ⟨-, hu, rfl⟩ | ⟨resource, -, hu, rfl⟩ <;>
      simp [hu, hreport, ih hgoes.2, firstFailure?]

theorem findSome?_abort?_eq_none_iff :
    attempts.findSome? (Attempt.abort? site) = none ↔ ∀ a ∈ attempts, a.aborts site = false := by
  simp [List.findSome?_eq_none_iff, Attempt.aborts]

end

/-- A run that comes to its pages has a course, too. Its error is that of the attempt that ended
it, or else the first one about a file that could not be read or written. -/
theorem generateSite_course {fs : FileSystem} {request : RunRequest} {site : SiteConfig}
    {pages : List Page} (hsite : runSite fs request = .ok site)
    (hpages : requestedPages request.page = .ok pages)
    (hmade : (fs.makeDirectories site.outputDir).2 = none) :
    ∃ attempts,
      IsCourse site (.unread site.baseStylesheet) (fs.prepared site) pages attempts ∧
        generateSite fs request =
          ⟨filesAfterAttempts (fs.prepared site) attempts,
            attempts.filterMap (Attempt.report? site),
            match attempts.findSome? (Attempt.abort? site) with
            | some cause => some (.aborted cause)
            | none => (attempts.findSome? Attempt.unavailable?).map .unavailable⟩ := by
  obtain ⟨attempts, hcourse, hloop⟩ :=
    generatePages_course site (.unread site.baseStylesheet) (fs.prepared site) pages
  refine ⟨attempts, hcourse, ?_⟩
  rw [generateSite_of_directory hsite hpages hmade, ← generatePages_unread, hloop]
  cases habort : attempts.findSome? (Attempt.abort? site) with
  | some cause => simp only [PagesResult.toRun, PagesResult.failure?]
  | none =>
    have hfirst := firstFailure?_reports (findSome?_abort?_eq_none_iff.mp habort)
    simp only [PagesResult.toRun, PagesResult.failure?, hfirst]

end StaticSite
