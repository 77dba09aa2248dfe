/-
StaticSite.Proofs.Generate.OneByOne — one run for each page.

The runs are in the order of the pages, each on the files that the one
before has left. What they come to is compared with the loop over the same
pages. As long as no page is written over the configuration or the
stylesheet, the runs load the same site and read the same stylesheet, so
that page by page the files are equal (`Resumes`, `separateRuns_cons`).

They differ where a page aborts a run, as a page without content does, or
one whose path cannot be a path or cannot be shown: the loop ends there, the
runs go on. So both come to the same if all runs after an aborted one are
aborted, too, and come back to the files that it has left
(`generateFrom_separately`), and only then, as there are fewer reports
otherwise, or other files (`staysAborted_of_sameOutcome`).
-/
import StaticSite.Proofs.Generate.Resuming

namespace StaticSite

open FileSystem

/-! ## 1. One run for each page -/

/-- The runs for single pages, each on the files that the one before has left. -/
def separateRuns (config : Path) (outputDir : Option Path) (fs : FileSystem) :
    List Page → List RunResult
  | [] => []
  | page :: rest =>
    let run := generateSite fs ⟨some page.frame.key, config, outputDir⟩
    run :: separateRuns config outputDir run.files rest

theorem separateRuns_congr {config : Path} {outputDir : Option Path} {a b : FileSystem}
    {page : Page} {rest : List Page}
    (h : generateSite a ⟨some page.frame.key, config, outputDir⟩ =
      generateSite b ⟨some page.frame.key, config, outputDir⟩) :
    separateRuns config outputDir a (page :: rest) =
      separateRuns config outputDir b (page :: rest) := by
  rw [separateRuns, separateRuns, h]

/-- The files after some runs that started from the given ones. -/
def filesAfter (fs : FileSystem) : List RunResult → FileSystem
  | [] => fs
  | run :: rest => filesAfter run.files rest

/-- Was the run ended by a page? -/
def RunResult.isAborted (run : RunResult) : Bool :=
  match run.failure with
  | some (.aborted _) => true
  | _ => false

/-- From the first aborted run on, all runs are aborted, and in the end the files are as it has left
them. -/
def StaysAborted : List RunResult → Prop
  | [] => True
  | run :: rest =>
    (run.isAborted = false ∧ StaysAborted rest) ∨
      (∀ later ∈ run :: rest, later.isAborted = true) ∧ filesAfter run.files rest = run.files

theorem staysAborted_cons_of_not {run : RunResult} {rest : List RunResult}
    (hrun : run.isAborted = false) : StaysAborted (run :: rest) ↔ StaysAborted rest := by
  simp [StaysAborted, hrun]

theorem staysAborted_cons_of_aborted {run : RunResult} {rest : List RunResult}
    (hrun : run.isAborted = true) :
    StaysAborted (run :: rest) ↔
      (∀ later ∈ rest, later.isAborted = true) ∧ filesAfter run.files rest = run.files := by
  simp [StaysAborted, hrun]

theorem staysAborted_of_none {runs : List RunResult} (h : ∀ run ∈ runs, run.isAborted = false) :
    StaysAborted runs := by
  induction runs with
  | nil => trivial
  | cons run rest ih =>
    rw [List.forall_mem_cons] at h
    exact (staysAborted_cons_of_not h.1).mpr (ih h.2)

theorem filesAfter_of_all {fs : FileSystem} {runs : List RunResult}
    (h : ∀ run ∈ runs, run.files = fs) : filesAfter fs runs = fs := by
  induction runs with
  | nil => rfl
  | cons run rest ih =>
    rw [List.forall_mem_cons] at h
    rw [filesAfter, h.1, ih h.2]

/-- Aborted runs that all leave the same files do so. -/
theorem staysAborted_of_all {fs : FileSystem} {runs : List RunResult}
    (h : ∀ run ∈ runs, run.isAborted = true ∧ run.files = fs) : StaysAborted runs := by
  cases runs with
  | nil => trivial
  | cons run rest =>
    rw [List.forall_mem_cons] at h
    obtain ⟨⟨haborted, hfiles⟩, hrest⟩ := h
    refine (staysAborted_cons_of_aborted haborted).mpr
      ⟨fun later hlater => (hrest later hlater).1, ?_⟩
    rw [hfiles]
    exact filesAfter_of_all fun later hlater => (hrest later hlater).2

theorem staysAborted_singleton (run : RunResult) : StaysAborted [run] := by
  cases hrun : run.isAborted with
  | false => exact (staysAborted_cons_of_not hrun).mpr trivial
  | true => exact (staysAborted_cons_of_aborted hrun).mpr ⟨by simp, rfl⟩

/-- A text up to its first colon that a space follows. -/
def beforeColon : List Char → List Char
  | [] => []
  | ':' :: ' ' :: _ => []
  | c :: s => c :: beforeColon s

/-- The lines on the pages that could not be read or written, without the causes. -/
def RunResult.failedLines (fs : FileSystem) (result : RunResult) : List String :=
  (result.errorLines fs).map fun line => String.ofList (beforeColon line.toList)

/-- A run comes to the same as some other runs one after the other, all from the same files: the
same files in the end, the same lines, and a failure if one of the others fails. -/
structure SameOutcome (fs : FileSystem) (run : RunResult) (others : List RunResult) : Prop where
  files : run.files = filesAfter fs others
  wrote : run.wroteLines fs = others.flatMap (RunResult.wroteLines fs)
  failed : run.failedLines fs = others.flatMap (RunResult.failedLines fs)
  fails : run.failure.isSome = true ↔ ∃ other ∈ others, other.failure.isSome = true

theorem flatMap_wroteLines (fs : FileSystem) (runs : List RunResult) :
    runs.flatMap (RunResult.wroteLines fs) =
      ((runs.flatMap RunResult.reports).filter PageReport.isSuccess).filterMap
        (PageReport.line? fs) := by
  rw [List.filter_flatMap, List.filterMap_flatMap]
  rfl

theorem flatMap_failedLines (fs : FileSystem) (runs : List RunResult) :
    runs.flatMap (RunResult.failedLines fs) =
      (((runs.flatMap RunResult.reports).filter fun report => !report.isSuccess).filterMap
        (PageReport.line? fs)).map fun line => String.ofList (beforeColon line.toList) := by
  rw [List.filter_flatMap, List.filterMap_flatMap, List.map_flatMap]
  rfl

/-- The same reports give the same lines. -/
theorem SameOutcome.of_reports {fs : FileSystem} {run : RunResult} {others : List RunResult}
    (hfiles : run.files = filesAfter fs others)
    (hreports : run.reports = others.flatMap RunResult.reports)
    (hfails : run.failure.isSome = true ↔ ∃ other ∈ others, other.failure.isSome = true) :
    SameOutcome fs run others := by
  refine ⟨hfiles, ?_, ?_, hfails⟩
  · rw [flatMap_wroteLines, RunResult.wroteLines, hreports]
  · rw [flatMap_failedLines, RunResult.failedLines, RunResult.errorLines, hreports]

/-- There are as many lines as reports, if all reports have lines. -/
theorem length_lines {fs : FileSystem} {reports : List PageReport}
    (h : ∀ report ∈ reports, (fs.shown? report.path).isSome = true) :
    ((reports.filter PageReport.isSuccess).filterMap (PageReport.line? fs)).length +
      ((reports.filter fun report => !report.isSuccess).filterMap (PageReport.line? fs)).length =
        reports.length := by
  induction reports with
  | nil => rfl
  | cons report rest ih =>
    rw [List.forall_mem_cons] at h
    obtain ⟨shown, hshown⟩ := Option.isSome_iff_exists.mp h.1
    have hrest := ih h.2
    cases hsuccess : report.isSuccess <;>
      simp [PageReport.line?, hsuccess, hshown] at hrest ⊢ <;> omega

/-- The same lines come from as many reports. -/
theorem SameOutcome.length_reports {fs : FileSystem} {run : RunResult} {others : List RunResult}
    (h : SameOutcome fs run others)
    (hrun : ∀ report ∈ run.reports, (fs.shown? report.path).isSome = true)
    (hothers : ∀ report ∈ others.flatMap RunResult.reports,
      (fs.shown? report.path).isSome = true) :
    run.reports.length = (others.flatMap RunResult.reports).length := by
  have hwrote := congrArg List.length h.wrote
  have hfailed := congrArg List.length h.failed
  rw [flatMap_wroteLines, RunResult.wroteLines] at hwrote
  rw [flatMap_failedLines, RunResult.failedLines, RunResult.errorLines, List.length_map,
    List.length_map] at hfailed
  rw [← length_lines hrun, ← length_lines hothers, hwrote, hfailed]

/-! ## 2. The loop in the middle of the runs -/

/-- The files between two runs for single pages: they differ from the files at the start in
places of pages only, and the stylesheet is read as at the start. -/
structure Resumes (S : Location → Prop) (site : SiteConfig) (start b : FileSystem) : Prop where
  agrees : AgreesOff S start b
  stylesheet : b.readText site.baseStylesheet = start.readText site.baseStylesheet

section

variable {S : Location → Prop} {site : SiteConfig} {start b : FileSystem}

theorem Resumes.refl (S : Location → Prop) (site : SiteConfig) (start : FileSystem) :
    Resumes S site start start :=
  ⟨.refl S start, rfl⟩

theorem Resumes.stepFrom_eq (h : Resumes S site start b) (page : Page) (fs : FileSystem) :
    page.stepFrom site b fs = page.stepFrom site start fs := by
  simp only [Page.stepFrom, Page.documentIn, h.stylesheet]

/-- A page that is written has read the stylesheet, and is not written over it. -/
theorem Resumes.stepFrom (h : Resumes S site start b)
    (hcss : start.LeadsOff S site.baseStylesheet) {page : Page}
    (hS : ∀ l, start.resolve (page.target site) = .ok l → S l) :
    Resumes S site start (page.stepFrom site start b).1 := by
  have hstep : AgreesOff S b (page.stepFrom site start b).1 :=
    Page.stepFrom_agreesOff fun l hl => hS l (h.agrees.resolve_ok_iff.mpr hl)
  refine ⟨h.agrees.trans hstep, ?_⟩
  rcases page.stepFrom_cases site start b with ⟨text, l, hdocument, -, -⟩ | ⟨e, hs⟩
  · obtain ⟨css, content, hread, -, -⟩ := Page.documentIn_ok_iff.mp hdocument
    rw [hread]
    exact readText_ok_mono (fun _ => (h.agrees.trans hstep).readBytes_ok hcss) hread
  · rw [hs]
    exact h.stylesheet

end

/-- A run for a single page fails without being aborted just if it reports a failure. -/
theorem failure?_withReport (report : PageReport) (result : PagesResult) :
    (result.withReport report).failure?.isSome = true ↔
      report.isSuccess = false ∨ result.failure?.isSome = true := by
  obtain ⟨files, reports, abort⟩ := result
  cases abort with
  | some e => simp [PagesResult.withReport, PagesResult.failure?]
  | none =>
    cases report <;>
      simp [PagesResult.withReport, PagesResult.failure?, firstFailure?, PageReport.isSuccess]

theorem not_isAborted_withReport (report : PageReport) (files : FileSystem) :
    (PagesResult.withReport report ⟨files, [], none⟩).toRun.isAborted = false := by
  cases report <;> rfl

/-! ## 3. Page by page -/

/-- The runs for single pages are the loop over lists of one page, as long as the files are ones
between two runs. -/
structure RunsPages (config : Path) (outputDir : Option Path) (S : Location → Prop)
    (site : SiteConfig) (start : FileSystem) (pages : List Page) : Prop where
  run : ∀ page ∈ pages, ∀ b, Resumes S site start b →
    generateSite b ⟨some page.frame.key, config, outputDir⟩ =
      (generateFrom site start b [page]).toRun
  next : ∀ page ∈ pages, ∀ b, Resumes S site start b →
    Resumes S site start (page.stepFrom site start b).1

section

variable {config : Path} {outputDir : Option Path} {S : Location → Prop} {site : SiteConfig}
  {start b : FileSystem} {page : Page} {pages rest : List Page}

theorem RunsPages.tail (h : RunsPages config outputDir S site start (page :: rest)) :
    RunsPages config outputDir S site start rest :=
  ⟨fun other hother => h.run other (List.mem_cons_of_mem page hother),
    fun other hother => h.next other (List.mem_cons_of_mem page hother)⟩

/-- A page either gets its report, and both ways go on from the files after it, or it aborts its
run; then the one run ends, and the others go on. -/
theorem separateRuns_cons (h : RunsPages config outputDir S site start (page :: rest))
    (hb : Resumes S site start b) :
    ∃ after, Resumes S site start after ∧
      ((∃ report, (start.shown? report.path).isSome = true ∧
        generateFrom site start b (page :: rest) =
          (generateFrom site start after rest).withReport report ∧
        separateRuns config outputDir b (page :: rest) =
          (PagesResult.withReport report ⟨after, [], none⟩).toRun ::
            separateRuns config outputDir after rest) ∨
      ∃ cause,
        (∃ failure, page.stepFrom site start b = (after, failure) ∧
          after.reportOn (page.target site) failure = .error cause) ∧
        generateFrom site start b (page :: rest) = ⟨after, [], some cause⟩ ∧
        separateRuns config outputDir b (page :: rest) =
          ⟨after, [], some (.aborted cause)⟩ :: separateRuns config outputDir after rest) := by
  have hrun := h.run page List.mem_cons_self b hb
  have hnext := h.next page List.mem_cons_self b hb
  cases hs : page.stepFrom site start b with
  | mk after failure =>
    rw [hs] at hnext
    refine ⟨after, hnext, ?_⟩
    cases hr : after.reportOn (page.target site) failure with
    | ok report =>
      obtain ⟨hof, hshown⟩ := reportOn_eq_ok_iff.mp hr
      rw [hnext.agrees.shown?_eq, ← (PageReport.path_of hof).1] at hshown
      rw [generateFrom_of_report hs hr] at hrun
      refine Or.inl ⟨report, hshown, generateFrom_of_report hs hr, ?_⟩
      simp only [separateRuns, hrun]
      rfl
    | error cause =>
      rw [generateFrom_of_abort hs hr] at hrun
      refine Or.inr ⟨cause, ⟨failure, rfl, hr⟩, generateFrom_of_abort hs hr, ?_⟩
      simp only [separateRuns, hrun]
      rfl

/-- An aborted run reports nothing; any other reports its page. -/
theorem reports_separateRuns (h : RunsPages config outputDir S site start pages)
    (hb : Resumes S site start b) :
    ∀ run ∈ separateRuns config outputDir b pages, run.reports = [] ↔ run.isAborted = true := by
  induction pages generalizing b with
  | nil =>
    intro run hrun
    cases hrun
  | cons page rest ih =>
    obtain ⟨after, hafter, ⟨report, -, -, hruns⟩ | ⟨cause, -, -, hruns⟩⟩ := separateRuns_cons h hb
    all_goals
      rw [hruns, List.forall_mem_cons]
      refine ⟨?_, ih h.tail hafter⟩
    · rw [not_isAborted_withReport]
      simp [PagesResult.withReport, PagesResult.toRun]
    · simp [RunResult.isAborted]

/-- What both ways report can be shown. -/
theorem shown_separateRuns (h : RunsPages config outputDir S site start pages)
    (hb : Resumes S site start b) :
    (∀ report ∈ (generateFrom site start b pages).reports,
        (start.shown? report.path).isSome = true) ∧
      ∀ report ∈ (separateRuns config outputDir b pages).flatMap RunResult.reports,
        (start.shown? report.path).isSome = true := by
  induction pages generalizing b with
  | nil => simp [generateFrom, separateRuns]
  | cons page rest ih =>
    obtain ⟨after, hafter, ⟨report, hshown, hloop, hruns⟩ | ⟨cause, -, hloop, hruns⟩⟩ :=
      separateRuns_cons h hb
    all_goals
      obtain ⟨hfull, hsingle⟩ := ih h.tail hafter
      rw [hloop, hruns, List.flatMap_cons]
    · exact ⟨List.forall_mem_cons.mpr ⟨hshown, hfull⟩, List.forall_mem_cons.mpr ⟨hshown, hsingle⟩⟩
    · exact ⟨by simp, hsingle⟩

/-- Runs that are all aborted report nothing. -/
theorem reports_of_aborted (h : RunsPages config outputDir S site start pages)
    (hb : Resumes S site start b)
    (haborted : ∀ run ∈ separateRuns config outputDir b pages, run.isAborted = true) :
    (separateRuns config outputDir b pages).flatMap RunResult.reports = [] :=
  List.flatMap_eq_nil_iff.mpr fun run hrun =>
    (reports_separateRuns h hb run hrun).mpr (haborted run hrun)

/-- The loop comes to the same as the runs for single pages if all runs after an aborted one are
aborted and come back to its files. -/
theorem generateFrom_separately (h : RunsPages config outputDir S site start pages)
    (hb : Resumes S site start b)
    (haborted : StaysAborted (separateRuns config outputDir b pages)) :
    (generateFrom site start b pages).files =
        filesAfter b (separateRuns config outputDir b pages) ∧
      (generateFrom site start b pages).reports =
        (separateRuns config outputDir b pages).flatMap RunResult.reports ∧
      ((generateFrom site start b pages).failure?.isSome = true ↔
        ∃ run ∈ separateRuns config outputDir b pages, run.failure.isSome = true) := by
  induction pages generalizing b with
  | nil =>
    exact ⟨rfl, rfl, by simp [generateFrom, separateRuns, PagesResult.failure?, firstFailure?]⟩
  | cons page rest ih =>
    obtain ⟨after, hafter, ⟨report, -, hloop, hruns⟩ | ⟨cause, -, hloop, hruns⟩⟩ :=
      separateRuns_cons h hb
    · rw [hruns, staysAborted_cons_of_not (not_isAborted_withReport _ _)] at haborted
      obtain ⟨hfiles, hreports, hfails⟩ := ih h.tail hafter haborted
      rw [hloop, hruns]
      refine ⟨hfiles, congrArg (report :: ·) hreports, ?_⟩
      rw [failure?_withReport, hfails, List.exists_mem_cons_iff]
      refine or_congr ?_ Iff.rfl
      exact (or_iff_left (by simp [PagesResult.failure?, firstFailure?])).symm.trans
        (failure?_withReport report ⟨after, [], none⟩).symm
    · rw [hruns, staysAborted_cons_of_aborted rfl] at haborted
      have hreports := reports_of_aborted h.tail hafter haborted.1
      rw [hloop, hruns]
      exact ⟨haborted.2.symm, hreports.symm, by simp [PagesResult.failure?]⟩

/-- With as many reports and the same files, all runs after an aborted one are aborted and come
back to its files. -/
theorem staysAborted_of_sameOutcome (h : RunsPages config outputDir S site start pages)
    (hb : Resumes S site start b)
    (hfiles : (generateFrom site start b pages).files =
      filesAfter b (separateRuns config outputDir b pages))
    (hlength : (generateFrom site start b pages).reports.length =
      ((separateRuns config outputDir b pages).flatMap RunResult.reports).length) :
    StaysAborted (separateRuns config outputDir b pages) := by
  induction pages generalizing b with
  | nil => trivial
  | cons page rest ih =>
    obtain ⟨after, hafter, ⟨report, -, hloop, hruns⟩ | ⟨cause, -, hloop, hruns⟩⟩ :=
      separateRuns_cons h hb
    · rw [hloop, hruns] at hlength hfiles
      rw [hruns, staysAborted_cons_of_not (not_isAborted_withReport _ _)]
      apply ih h.tail hafter hfiles
      simpa [PagesResult.withReport, PagesResult.toRun] using hlength
    · rw [hloop, hruns] at hlength hfiles
      rw [hruns, staysAborted_cons_of_aborted rfl]
      -- the loop has ended without a report, so the runs report nothing, either
      have hnone : (separateRuns config outputDir after rest).flatMap RunResult.reports = [] :=
        List.length_eq_zero_iff.mp hlength.symm
      exact ⟨fun run hrun => (reports_separateRuns h.tail hafter run hrun).mp
        (List.flatMap_eq_nil_iff.mp hnone run hrun), hfiles.symm⟩

end

end StaticSite
