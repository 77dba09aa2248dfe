/-
StaticSite.Proofs.Generate.Printed — what a run prints, and what has happened.

Each report of a run is printed as a line. So the lines with a word in front
are those on the pages that were written, and on the pages that failed
(`generateSite_prints`), with two exceptions (`generateSite_prints_else`). A
path may hold a line feed, and then it looks as if there were more lines. And
when the working directory has been taken away, an absolute path cannot be
shown: the page may be in its place, but the run ends without a word on it.
-/
import StaticSite.Proofs.Files.ShortText
import StaticSite.Proofs.Generate.Attempts

namespace StaticSite

open FileSystem
open StaticSite.Text

/-! ## 1. Reports and attempts -/

section

variable {site : SiteConfig} {attempts : List Attempt}

/-- With paths that can be shown, the attempts that are reported as written are the successful
ones. -/
theorem reports_filter_isSuccess
    (hshown : ∀ a ∈ attempts, (a.made.files.shown? (a.page.target site)).isSome = true) :
    (attempts.filterMap (Attempt.report? site)).filter PageReport.isSuccess =
      (attempts.filter Attempt.succeeds).map fun a => .wrote (a.page.target site) := by
  induction attempts with
  | nil => rfl
  | cons a rest ih =>
    rw [List.forall_mem_cons] at hshown
    have hrest := ih hshown.2
    rcases Attempt.outcome_cases hshown.1 with ⟨hs, -, ho⟩ | ⟨_, hs, -, ho⟩ | ⟨_, hs, -, -, ho⟩
    · simp [List.filter_cons, hs, Attempt.report?_of_ok ho, hrest]
    · simp [hs, Attempt.report?_of_ok ho, hrest]
    · simp [hs, Attempt.report?_of_error ho, hrest]

theorem reports_filter_not_isSuccess
    (hshown : ∀ a ∈ attempts, (a.made.files.shown? (a.page.target site)).isSome = true) :
    (attempts.filterMap (Attempt.report? site)).filter (fun report => !report.isSuccess) =
      attempts.filterMap fun a => a.unavailable?.map (.failed (a.page.target site)) := by
  induction attempts with
  | nil => rfl
  | cons a rest ih =>
    rw [List.forall_mem_cons] at hshown
    have hrest := ih hshown.2
    rcases Attempt.outcome_cases hshown.1 with ⟨-, hu, ho⟩ | ⟨_, -, hu, ho⟩ | ⟨_, -, hu, -, ho⟩
    · simp [hu, Attempt.report?_of_ok ho, hrest]
    · simp [hu, Attempt.report?_of_ok ho, hrest]
    · simp [hu, Attempt.report?_of_error ho, hrest]

end

/-- A failure that is reported is about the file of the page or about the stylesheet. -/
theorem Page.path_of_stepFrom {page : Page} {site : SiteConfig} {start fs : FileSystem}
    {e : PageError} {resource : Unavailable} (h : (page.stepFrom site start fs).2 = some e)
    (he : e.resource? = some resource) :
    resource.path = page.target site ∨ resource.path = site.baseStylesheet := by
  have hof : ∀ {p : Path} {cause : FileError},
      (AccessError.of p cause).resource? = some resource → resource.path = p := by
    intro p cause hcause
    cases cause <;> simp [AccessError.of, AccessError.resource?] at hcause <;> rw [← hcause]
  rw [stepFrom] at h
  cases hdocument : page.documentIn site start fs with
  | ok text =>
    simp only [hdocument, writeText_of_encode (DocumentText.encode?_string text),
      Option.map_map, Option.map_eq_some_iff] at h
    obtain ⟨cause, -, rfl⟩ := h
    exact Or.inl (hof he)
  | error e' =>
    simp only [hdocument, Option.some.injEq] at h
    subst h
    rw [documentIn] at hdocument
    cases hread : start.readText site.baseStylesheet with
    | error e'' =>
      simp only [hread, Except.error.injEq] at hdocument
      subst hdocument
      cases hbytes : start.readBytes site.baseStylesheet with
      | error cause =>
        simp only [readText, hbytes, Except.error.injEq] at hread
        subst hread
        exact Or.inr (hof he)
      | ok bytes =>
        cases htext : textOf? bytes <;> simp [readText, hbytes, htext] at hread
        subst hread
        cases he
    | ok css =>
      cases hcontent : page.content site fs <;> simp [hread, hcontent] at hdocument
      subst hdocument
      cases he

/-! ## 2. Lines -/

theorem not_mem_shown {fs : FileSystem} {p : Path} {shown : String} {c : Char} (hslash : c ≠ '/')
    (hdot : c ≠ '.') (h : fs.shown? p = some shown) (hc : c ∉ p.text.toList) :
    c ∉ shown.toList := by
  rw [shown?] at h
  split at h
  · rw [Option.map_eq_some_iff] at h
    obtain ⟨here, -, rfl⟩ := h
    exact fun hmem => hc (Path.mem_text_of_mem_shortText hslash hdot hmem)
  · rw [Option.some.injEq] at h
    rwa [← h]

/-- Lines that start with a word are found again in what is printed. -/
theorem linesWith_asLines_append {α : Type} {word : String} (hword : word ≠ "")
    (hline : '\n' ∉ word.toList) (f : α → String) {l : List α}
    (h : ∀ a ∈ l, '\n' ∉ (f a).toList) :
    linesWith word (asLines (l.map fun a => word ++ f a)) = l.map fun a => word ++ f a := by
  have htexts : ∀ text ∈ l.map fun a => word ++ f a, '\n' ∉ text.toList := by
    intro text htext
    obtain ⟨a, ha, rfl⟩ := List.mem_map.mp htext
    rw [String.toList_append, List.mem_append]
    exact not_or.mpr ⟨hline, h a ha⟩
  rw [linesWith_asLines hword htexts, List.filter_eq_self]
  intro text htext
  obtain ⟨a, -, rfl⟩ := List.mem_map.mp htext
  simp [String.toList_append]

/-! ## 3. A run and its course -/

/-- What a run says of its pages is what the attempts came to. The texts of the pages are their
paths, as they are shown. -/
structure TellsOf (fs : FileSystem) (site : SiteConfig) (shown : Page → String)
    (pages : List Page) (attempts : List Attempt) (run : RunResult) : Prop where
  /-- No page is tried twice, and none is both written and failed. -/
  once : (attempts.map Attempt.page).Nodup ∧
    ∀ a ∈ attempts, a.succeeds = true → a.unavailable? = none
  wrote : run.wroteLines fs =
    (attempts.filter Attempt.succeeds).map fun a => "wrote " ++ shown a.page
  failed : run.errorLines fs =
    attempts.filterMap fun a => a.unavailable?.map fun resource =>
      "failed " ++ (shown a.page ++ ": " ++ resource.path.text ++ ": " ++ resource.cause.reason)
  /-- What is printed is read again as the same lines, if no path holds a line feed. -/
  lines : (∀ page ∈ pages, '\n' ∉ (page.target site).text.toList) →
    '\n' ∉ site.baseStylesheet.text.toList →
    linesWith "wrote " (run.stdout fs) = run.wroteLines fs ∧
      linesWith "failed " (run.stderr fs) = run.errorLines fs
  /-- A page that is written has its whole document put in its place; any other changes no file. -/
  changes : ∀ a ∈ attempts,
    (a.succeeds = true ∧ a.PutsDocument site) ∨ (a.succeeds = false ∧ a.made.files = a.before)
  /-- Only an error of another kind ends a run. -/
  ends : ∀ a ∈ attempts, a.aborts site = true ↔
    ∃ e, a.made.failure = some e ∧ e.resource? = none
  /-- A run without an error has written every page. -/
  returns : run.failure = none →
    (∀ a ∈ attempts, a.succeeds = true) ∧ attempts.map Attempt.page = pages ∧
      run.wroteLines fs = (pages.map fun page => "wrote " ++ shown page) ∧
      run.errorLines fs = []

section

variable {fs : FileSystem} {site : SiteConfig} {pages : List Page} {attempts : List Attempt}
  {shown : Page → String} {run : RunResult}

theorem wroteLines_of_attempts (hreports : run.reports = attempts.filterMap (Attempt.report? site))
    (hmade : ∀ a ∈ attempts, ∀ p, a.made.files.shown? p = fs.shown? p)
    (hshown : ∀ a ∈ attempts, fs.shown? (a.page.target site) = some (shown a.page)) :
    run.wroteLines fs =
      (attempts.filter Attempt.succeeds).map fun a => "wrote " ++ shown a.page := by
  rw [RunResult.wroteLines, hreports, reports_filter_isSuccess fun a ha => by
    rw [hmade a ha, hshown a ha, Option.isSome_some], List.filterMap_map,
    ← List.filterMap_eq_map']
  refine List.filterMap_congr fun a ha => ?_
  simp [PageReport.line?, hshown a (List.mem_filter.mp ha).1]

theorem errorLines_of_attempts (hreports : run.reports = attempts.filterMap (Attempt.report? site))
    (hmade : ∀ a ∈ attempts, ∀ p, a.made.files.shown? p = fs.shown? p)
    (hshown : ∀ a ∈ attempts, fs.shown? (a.page.target site) = some (shown a.page)) :
    run.errorLines fs =
      attempts.filterMap fun a => a.unavailable?.map fun resource =>
        "failed " ++
          (shown a.page ++ ": " ++ resource.path.text ++ ": " ++ resource.cause.reason) := by
  rw [RunResult.errorLines, hreports, reports_filter_not_isSuccess fun a ha => by
    rw [hmade a ha, hshown a ha, Option.isSome_some], List.filterMap_filterMap]
  refine List.filterMap_congr fun a ha => ?_
  cases a.unavailable? with
  | none => rfl
  | some resource =>
    simp [PageReport.line?, hshown a ha, String.append_assoc]

/-- The lines on the pages that failed are found again in what is printed. -/
theorem linesWith_failed
    (h : ∀ a ∈ attempts, ∀ resource, a.unavailable? = some resource →
      '\n' ∉ (shown a.page).toList ∧ '\n' ∉ resource.path.text.toList) :
    linesWith "failed " (asLines (attempts.filterMap fun a => a.unavailable?.map fun resource =>
        "failed " ++
          (shown a.page ++ ": " ++ resource.path.text ++ ": " ++ resource.cause.reason))) =
      attempts.filterMap fun a => a.unavailable?.map fun resource =>
        "failed " ++
          (shown a.page ++ ": " ++ resource.path.text ++ ": " ++ resource.cause.reason) := by
  have hmap : (attempts.filterMap fun a => a.unavailable?.map fun resource =>
        "failed " ++
          (shown a.page ++ ": " ++ resource.path.text ++ ": " ++ resource.cause.reason)) =
      (attempts.filterMap fun a => a.unavailable?.map fun resource =>
        shown a.page ++ ": " ++ resource.path.text ++ ": " ++ resource.cause.reason).map
          fun text => "failed " ++ text := by
    rw [List.map_filterMap]
    simp only [Option.map_map, Function.comp_def]
  rw [hmap]
  refine linesWith_asLines_append (by decide) (by decide) id fun text htext => ?_
  obtain ⟨a, ha, hline⟩ := List.mem_filterMap.mp htext
  obtain ⟨resource, hresource, rfl⟩ := Option.map_eq_some_iff.mp hline
  obtain ⟨hpage, hpath⟩ := h a ha resource hresource
  have hreason : '\n' ∉ resource.cause.reason.toList := by
    cases resource.cause <;> decide
  simp [hpage, hpath, hreason]

/-- A run that comes to its pages prints what happens to them, if the paths of their files can be
shown. It tries the pages in their order, as long as there is no error but one about a file that
cannot be read or written. The pages whose documents were put in their places are reported as
written, those with such an error as failed, and all files are as the attempts have left them. -/
theorem generateSite_prints (fs : FileSystem) (request : RunRequest) {site : SiteConfig}
    {pages : List Page} (hsite : runSite fs request = .ok site)
    (hpages : requestedPages request.page = .ok pages)
    (hmade : (fs.makeDirectories site.outputDir).2 = none) (shown : Page → String)
    (hshown : ∀ page ∈ pages, fs.shown? (page.target site) = some (shown page)) :
    ∃ attempts,
      IsCourse site (.unread site.baseStylesheet) (fs.prepared site) pages attempts ∧
        (generateSite fs request).files = filesAfterAttempts (fs.prepared site) attempts ∧
        TellsOf fs site shown pages attempts (generateSite fs request) := by
  obtain ⟨attempts, hcourse, hrun⟩ := generateSite_course hsite hpages hmade
  have hmem : ∀ a ∈ attempts, a.page ∈ pages := fun a ha =>
    hcourse.first.subset (List.mem_map_of_mem ha)
  have hsame : ∀ a ∈ attempts, ∀ p, a.made.files.shown? p = fs.shown? p := fun a ha p =>
    (hcourse.shown?_eq p a ha).trans (shown?_prepared fs site p)
  have hpath : ∀ a ∈ attempts, fs.shown? (a.page.target site) = some (shown a.page) :=
    fun a ha => hshown a.page (hmem a ha)
  have hreports := congrArg RunResult.reports hrun
  have hwrote := wroteLines_of_attempts hreports hsame hpath
  have hfailed := errorLines_of_attempts hreports hsame hpath
  refine ⟨attempts, hcourse, congrArg RunResult.files hrun,
    ⟨(requestedPages_nodup hpages).sublist hcourse.first.sublist,
      fun _ _ => Attempt.unavailable?_of_succeeds⟩,
    hwrote, hfailed, fun hline hcss => ?_, fun a ha => hcourse.putsDocument_or_unchanged ha,
    fun a ha => ?_, fun hreturns => ?_⟩
  · have hshownLine : ∀ a ∈ attempts, '\n' ∉ (shown a.page).toList := fun a ha =>
      not_mem_shown (by decide) (by decide) (hpath a ha) (hline a.page (hmem a ha))
    rw [RunResult.stdout, RunResult.stderr, hwrote, hfailed]
    refine ⟨linesWith_asLines_append (by decide) (by decide) (fun a : Attempt => shown a.page)
      fun a ha => hshownLine a (List.mem_filter.mp ha).1,
      linesWith_failed fun a ha resource hresource => ⟨hshownLine a ha, ?_⟩⟩
    obtain ⟨e, he, hresource⟩ := Option.bind_eq_some_iff.mp hresource
    rw [hcourse.failure_eq a ha] at he
    rcases Page.path_of_stepFrom he hresource with hpage | hsheet
    · rw [hpage]
      exact hline a.page (hmem a ha)
    · rw [hsheet]
      exact hcss
  · rw [Attempt.aborts_iff, hsame a ha, hpath a ha]
    simp
  · -- neither kind of error has come up, so every attempt has succeeded
    obtain ⟨habort, hmissed⟩ : attempts.findSome? (Attempt.abort? site) = none ∧
        attempts.findSome? Attempt.unavailable? = none := by
      rw [hrun] at hreturns
      cases habort : attempts.findSome? (Attempt.abort? site) <;> simp_all
    rw [List.findSome?_eq_none_iff] at hmissed
    have hsucceeds : ∀ a ∈ attempts, a.succeeds = true := fun a ha =>
      Attempt.succeeds_of_not_aborts (findSome?_abort?_eq_none_iff.mp habort a ha) (hmissed a ha)
    have hall := hcourse.tries_all habort
    refine ⟨hsucceeds, hall, ?_, ?_⟩
    · rw [hwrote, List.filter_eq_self.mpr hsucceeds, ← hall, List.map_map]
      rfl
    · rw [hfailed, List.filterMap_eq_nil_iff]
      intro a ha
      rw [hmissed a ha, Option.map_none]

end

theorem generateSite_prints_stray :
    linesWith "wrote " ((generateSite strayFiles {}).stdout strayFiles) =
        ["wrote dist/index.html"] ∧
      linesWith "failed " ((generateSite strayFiles {}).stderr strayFiles) =
        ["failed dist/m/x: dist/m/x: No such file or directory"] ∧
      (∀ page ∈ registry, '\n' ∉ (page.target straySite).text.toList) ∧
      '\n' ∉ straySite.baseStylesheet.text.toList ∧
      runSite strayFiles {} = .ok straySite ∧ requestedPages none = .ok registry ∧
      (strayFiles.makeDirectories straySite.outputDir).2 = none ∧
      ∃ attempts,
        IsCourse straySite (.unread straySite.baseStylesheet) (strayFiles.prepared straySite)
            registry attempts ∧
          (generateSite strayFiles {}).files =
            filesAfterAttempts (strayFiles.prepared straySite) attempts ∧
          TellsOf strayFiles straySite (fun page => (page.target straySite).text) registry attempts
            (generateSite strayFiles {}) := by
  have hsite : runSite strayFiles {} = .ok straySite := by decide +kernel
  have hmade : (strayFiles.makeDirectories straySite.outputDir).2 = none := by decide +kernel
  exact ⟨by decide +kernel, by decide +kernel, by decide +kernel, by decide +kernel, hsite, rfl,
    hmade, generateSite_prints strayFiles {} hsite rfl hmade
      (fun page => (page.target straySite).text) (by decide +kernel)⟩

/-! ## 4. Runs that print something else -/

/-- A configuration that gives the first page a name of two lines. -/
def twoLines : FileSystem :=
  smallSystem "pages: \x7bhome: \"a\\nwrote b\"\x7d"

/-- The files seen from a working directory that has been taken away, with a site that is all told
by absolute paths. -/
def driftingFiles : FileSystem :=
  ⟨[(["s.yaml"], .file (encodeUtf8 "paths: \x7bbase_stylesheet: /s.css, output_dir: /o\x7d")),
    (["s.css"], .file .empty)], ["w"], []⟩

/-- The single page of the first run is written, and there are two lines on it. In the second run
a page is put in its place, and there is none. -/
theorem generateSite_prints_else :
    ((generateSite twoLines ⟨some "home", .ofText "config/site.yaml", none⟩).reports =
        [.wrote (.ofText "dist/a\nwrote b")] ∧
      linesWith "wrote "
          ((generateSite twoLines ⟨some "home", .ofText "config/site.yaml", none⟩).stdout
            twoLines) = ["wrote dist/a", "wrote b"]) ∧
    (driftingFiles.isAdrift = true ∧
      driftingFiles.isDirectory (.ofText "/o") = false ∧
      (generateSite driftingFiles ⟨some "home", .ofText "/s.yaml", none⟩).files.mode
        "/o/index.html" = .ok 644 ∧
      (generateSite driftingFiles ⟨some "home", .ofText "/s.yaml", none⟩).stdout driftingFiles =
        "" ∧
      (generateSite driftingFiles ⟨some "home", .ofText "/s.yaml", none⟩).failure =
        some (.aborted .unshown)) := by
  decide +kernel

end StaticSite
