/-
StaticSite.Proofs.Generate.Separate — all pages in one run, or in a run each.

When the site cannot be loaded, or its output directory cannot be created,
both ways fail and leave the same behind (`sameOutcome_of_failsInto`).
Otherwise the run over all pages is the loop over the registry, and the
runs for single pages go on from one another (`runsPages_registry`). Of the
pages of the registry only the last one can be without content, so that the
two ways can only differ when the path of a page cannot be a path
or cannot be shown (`staysAborted_registry`).
-/
import StaticSite.Proofs.Generate.FirstFailure
import StaticSite.Proofs.Generate.OneByOne

namespace StaticSite

open FileSystem

/-! ## 1. Pages that abort -/

section

variable {config : Path} {outputDir : Option Path} {S : Location → Prop} {site : SiteConfig}
  {start b : FileSystem} {page : Page} {pages rest : List Page}

/-- A page with a path that can be one, with content, and with a stylesheet that can be read or
be reported on, fails only for a file that cannot be read or written. -/
theorem Page.stepFrom_goesOn {e : PageError} (hs : (page.stepFrom site start b).2 = some e)
    (hcss : ∀ e, start.readText site.baseStylesheet = .error e →
      (PageError.stylesheet e).resource? ≠ none)
    (hvalid : (page.target site).isValid = true)
    (hcontent : ∃ html, page.content site b = .ok html) : e.resource? ≠ none := by
  cases hread : start.readText site.baseStylesheet with
  | error e' =>
    rw [Page.stepFrom_of_no_stylesheet hread, Option.some.injEq] at hs
    rw [← hs]
    exact hcss e' hread
  | ok css =>
    intro hnone
    obtain ⟨html, hhtml⟩ := hcontent
    rcases (Page.stepFrom_ends_iff hread).mp ⟨e, hs, hnone⟩ with ⟨e', he'⟩ | hinvalid
    · rw [hhtml] at he'
      cases he'
    · rw [hvalid] at hinvalid
      cases hinvalid

/-- A stylesheet whose failure cannot be reported on aborts all runs, and no files change. -/
theorem separateRuns_of_stylesheet {e : ReadError}
    (h : RunsPages config outputDir S site start pages) (hb : Resumes S site start b)
    (hread : start.readText site.baseStylesheet = .error e)
    (he : (PageError.stylesheet e).resource? = none) :
    ∀ run ∈ separateRuns config outputDir b pages, run.isAborted = true ∧ run.files = b := by
  induction pages with
  | nil =>
    intro run hrun
    cases hrun
  | cons page rest ih =>
    have hs : page.stepFrom site start b = (b, some (.stylesheet e)) :=
      Page.stepFrom_of_no_stylesheet hread
    have hr : b.reportOn (page.target site) (some (.stylesheet e)) =
        .error (.page (.stylesheet e)) :=
      reportOn_eq_error_iff.mpr (Or.inl ⟨_, rfl, he, rfl⟩)
    have hrun := h.run page List.mem_cons_self b hb
    rw [generateFrom_of_abort hs hr] at hrun
    simp only [separateRuns, hrun, List.forall_mem_cons]
    exact ⟨⟨rfl, rfl⟩, ih h.tail⟩

/-- A page that does not abort its run is followed by whatever the pages after it come to. -/
theorem staysAborted_separateRuns_cons
    (h : RunsPages config outputDir S site start (page :: rest)) (hb : Resumes S site start b)
    (hshown : (start.shown? (page.target site)).isSome = true)
    (hgoes : ∀ e, (page.stepFrom site start b).2 = some e → e.resource? ≠ none)
    (hrest : ∀ after, Resumes S site start after →
      StaysAborted (separateRuns config outputDir after rest)) :
    StaysAborted (separateRuns config outputDir b (page :: rest)) := by
  obtain ⟨after, hafter, ⟨report, -, -, hruns⟩ | ⟨cause, ⟨failure, hs, hr⟩, -, -⟩⟩ :=
    separateRuns_cons h hb
  · rw [hruns, staysAborted_cons_of_not (not_isAborted_withReport _ _)]
    exact hrest after hafter
  · rcases reportOn_eq_error_iff.mp hr with ⟨e, hfailure, he, -⟩ | ⟨-, hnone, -⟩
    · exact absurd he (hgoes e (by rw [hs, hfailure]))
    · rw [hafter.agrees.shown?_eq] at hnone
      simp [hnone] at hshown

/-- Of the pages of the registry only the last one can be without content. -/
theorem staysAborted_registry (h : RunsPages config outputDir S site start registry)
    (hvalid : ∀ page ∈ registry, (page.target site).isValid = true)
    (hshown : ∀ page ∈ registry, (start.shown? (page.target site)).isSome = true) :
    StaysAborted (separateRuns config outputDir start registry) := by
  have hstart : Resumes S site start start := .refl S site start
  by_cases hcss : ∀ e, start.readText site.baseStylesheet = .error e →
      (PageError.stylesheet e).resource? ≠ none
  · have hhome : homePage ∈ registry := by simp [registry]
    have hguide : userGuidePage ∈ registry := by simp [registry]
    refine staysAborted_separateRuns_cons h hstart (hshown _ hhome) (fun e hs => ?_) fun b hb => ?_
    · exact Page.stepFrom_goesOn hs hcss (hvalid _ hhome) ⟨_, rfl⟩
    refine staysAborted_separateRuns_cons h.tail hb (hshown _ hguide) (fun e hs => ?_) fun c _ => ?_
    · exact Page.stepFrom_goesOn hs hcss (hvalid _ hguide) ⟨_, rfl⟩
    exact staysAborted_singleton _
  · simp only [not_forall, not_not] at hcss
    obtain ⟨e, hread, he⟩ := hcss
    exact staysAborted_of_all (separateRuns_of_stylesheet h hstart hread he)

end

/-! ## 2. Runs that do not come to their pages -/

section

variable {config : Path} {outputDir : Option Path} {fs b c : FileSystem}

/-- Every run for a page of the registry fails before it comes to the page, and leaves the second
files. -/
def FailsInto (config : Path) (outputDir : Option Path) (b c : FileSystem) : Prop :=
  ∀ page ∈ registry, ∃ e,
    generateSite b ⟨some page.frame.key, config, outputDir⟩ = ⟨c, [], some e⟩ ∧
      (RunResult.mk c [] (some e)).isAborted = false

theorem separateRuns_of_failsInto (h : FailsInto config outputDir c c) (pages : List Page)
    (hpages : ∀ page ∈ pages, page ∈ registry) :
    filesAfter c (separateRuns config outputDir c pages) = c ∧
      (separateRuns config outputDir c pages).flatMap RunResult.reports = [] ∧
      ∀ run ∈ separateRuns config outputDir c pages, run.isAborted = false := by
  induction pages with
  | nil => exact ⟨rfl, rfl, fun run hrun => by cases hrun⟩
  | cons page rest ih =>
    obtain ⟨e, hrun, hnot⟩ := h page (hpages page List.mem_cons_self)
    obtain ⟨hfiles, hreports, haborted⟩ :=
      ih fun other hother => hpages other (List.mem_cons_of_mem page hother)
    simp only [separateRuns, hrun]
    refine ⟨hfiles, hreports, fun run hmem => ?_⟩
    rcases List.mem_cons.mp hmem with rfl | hrest
    · exact hnot
    · exact haborted run hrest

/-- When no run comes to its pages, all comes to the same, and no run is aborted. -/
theorem sameOutcome_of_failsInto {e : RunError}
    (hfull : generateSite fs ⟨none, config, outputDir⟩ = ⟨c, [], some e⟩)
    (hfirst : FailsInto config outputDir fs c) (hagain : FailsInto config outputDir c c) :
    SameOutcome fs (generateSite fs ⟨none, config, outputDir⟩)
        (separateRuns config outputDir fs registry) ∧
      StaysAborted (separateRuns config outputDir fs registry) := by
  obtain ⟨e', hrun, hnot⟩ := hfirst homePage (by simp [registry])
  obtain ⟨hfiles, hreports, haborted⟩ :=
    separateRuns_of_failsInto hagain [userGuidePage, releasesPage] (by simp [registry])
  have hruns : separateRuns config outputDir fs registry = ⟨c, [], some e'⟩ ::
      separateRuns config outputDir c [userGuidePage, releasesPage] := by
    rw [registry, separateRuns, hrun]
  rw [hfull, hruns]
  exact ⟨.of_reports hfiles.symm hreports.symm (by simp),
    (staysAborted_cons_of_not hnot).mpr (staysAborted_of_none haborted)⟩

/-- Without a site, every run ends at once. -/
theorem sameOutcome_of_config_error {e : RunError}
    (h : runSite fs ⟨none, config, outputDir⟩ = .error e) :
    SameOutcome fs (generateSite fs ⟨none, config, outputDir⟩)
        (separateRuns config outputDir fs registry) ∧
      StaysAborted (separateRuns config outputDir fs registry) := by
  have hnot : (RunResult.mk fs [] (some e)).isAborted = false := by
    cases hload : SiteConfig.load fs config with
    | error e' =>
      simp only [runSite, hload, Except.error.injEq] at h
      rw [← h]
      rfl
    | ok loaded => simp [runSite, hload] at h
  have hfails : FailsInto config outputDir fs fs :=
    fun page _ => ⟨e, generateSite_of_config_error h, hnot⟩
  exact sameOutcome_of_failsInto (generateSite_of_config_error h) hfails hfails

theorem requestedPages_key {page : Page} (h : page ∈ registry) :
    requestedPages (some page.frame.key) = .ok [page] := by
  simp only [registry, List.mem_cons, List.not_mem_nil, or_false] at h
  rcases h with rfl | rfl | rfl <;> rfl

/-- Without an output directory, every run creates the same part of it and ends. -/
theorem sameOutcome_of_no_directory {site : SiteConfig} {e : FileError}
    (hsite : runSite fs ⟨none, config, outputDir⟩ = .ok site)
    (h : (fs.makeDirectories site.outputDir).2 = some e) :
    SameOutcome fs (generateSite fs ⟨none, config, outputDir⟩)
        (separateRuns config outputDir fs registry) ∧
      StaysAborted (separateRuns config outputDir fs registry) := by
  obtain ⟨hsame, hfails⟩ := makeDirectories_again fs site.outputDir
  obtain ⟨e', he'⟩ : ∃ e', ((fs.prepared site).makeDirectories site.outputDir).2 = some e' :=
    Option.ne_none_iff_exists'.mp fun hnone => by simp [hfails.mp hnone] at h
  have hprepared : (fs.prepared site).prepared site = fs.prepared site := hsame
  refine sameOutcome_of_failsInto (generateSite_of_no_directory hsite rfl h) ?_ ?_
  · exact fun page hpage =>
      ⟨.outputDir e, generateSite_of_no_directory hsite (requestedPages_key hpage) h, rfl⟩
  · refine fun page hpage => ⟨.outputDir e', ?_, rfl⟩
    have hsite' : runSite (fs.prepared site) ⟨some page.frame.key, config, outputDir⟩ =
        .ok site := runSite_prepared hsite
    have hagain := generateSite_of_no_directory hsite' (requestedPages_key hpage) he'
    rwa [hprepared] at hagain

end

/-! ## 3. All pages, and one page at a time -/

section

variable {config : Path} {outputDir : Option Path} {fs : FileSystem} {site : SiteConfig}

/-- The runs for single pages go on from one another when no page is written over what they
read. -/
theorem runsPages_registry (hsite : runSite fs ⟨none, config, outputDir⟩ = .ok site)
    (hmade : (fs.makeDirectories site.outputDir).2 = none)
    (hconfig : (fs.prepared site).LeadsOff (IsTarget fs site registry) config)
    (hcss : (fs.prepared site).LeadsOff (IsTarget fs site registry) site.baseStylesheet) :
    RunsPages config outputDir (IsTarget fs site registry) site (fs.prepared site) registry := by
  refine ⟨fun page hpage b hb => ?_, fun page hpage b hb => ?_⟩
  · have hrun := generateSite_resumed hsite hmade hb.agrees hconfig (requestedPages_key hpage)
    rw [show generateFrom site b b [page] = generateFrom site (fs.prepared site) b [page] by
      simp only [generateFrom, hb.stepFrom_eq]] at hrun
    exact hrun
  · exact hb.stepFrom hcss fun l hl => ⟨page, hpage, hl⟩

/-- The first of the runs for single pages may as well start from the prepared files. -/
theorem separateRuns_prepared (hsite : runSite fs ⟨none, config, outputDir⟩ = .ok site)
    (hmade : (fs.makeDirectories site.outputDir).2 = none)
    (h : RunsPages config outputDir (IsTarget fs site registry) site (fs.prepared site) registry) :
    separateRuns config outputDir fs registry =
      separateRuns config outputDir (fs.prepared site) registry := by
  have hhome : homePage ∈ registry := by simp [registry]
  have hfirst : generateSite fs ⟨some homePage.frame.key, config, outputDir⟩ =
      (generateFrom site (fs.prepared site) (fs.prepared site) [homePage]).toRun :=
    generateSite_of_directory hsite (requestedPages_key hhome) hmade
  have hagain := h.run homePage hhome _ (.refl _ _ _)
  exact separateRuns_congr (hfirst.trans hagain.symm)

end

/-- A run over all pages, none of them written over the configuration or the stylesheet, comes
to the same as one run for each page exactly if from the first aborted of these on all are aborted
and come back to the files that it has left. This is so if the path of every page can be one and
can be shown. -/
theorem generateSite_separately_iff (fs : FileSystem) (config : Path) (outputDir : Option Path)
    (h : outputsApart fs ⟨none, config, outputDir⟩
      (fun site => [config, site.baseStylesheet]) = true) :
    (SameOutcome fs (generateSite fs ⟨none, config, outputDir⟩)
        (separateRuns config outputDir fs registry) ↔
      StaysAborted (separateRuns config outputDir fs registry)) ∧
    ((∀ site, runSite fs ⟨none, config, outputDir⟩ = .ok site → ∀ page ∈ registry,
        (page.target site).isValid = true ∧ (fs.shown? (page.target site)).isSome = true) →
      SameOutcome fs (generateSite fs ⟨none, config, outputDir⟩)
        (separateRuns config outputDir fs registry)) := by
  cases hsite : runSite fs ⟨none, config, outputDir⟩ with
  | error e =>
    obtain ⟨hsame, haborted⟩ := sameOutcome_of_config_error hsite
    exact ⟨iff_of_true hsame haborted, fun _ => hsame⟩
  | ok site =>
    cases hmade : (fs.makeDirectories site.outputDir).2 with
    | some e =>
      obtain ⟨hsame, haborted⟩ := sameOutcome_of_no_directory hsite hmade
      exact ⟨iff_of_true hsame haborted, fun _ => hsame⟩
    | none =>
      have hpages := runsPages_registry hsite hmade
        (outputsApart_leadsOff h hsite rfl (by simp)) (outputsApart_leadsOff h hsite rfl (by simp))
      have hstart := Resumes.refl (IsTarget fs site registry) site (fs.prepared site)
      have hruns := separateRuns_prepared hsite hmade hpages
      have hloop : generateSite fs ⟨none, config, outputDir⟩ =
          (generateFrom site (fs.prepared site) (fs.prepared site) registry).toRun :=
        generateSite_of_directory hsite rfl hmade
      have hsame : StaysAborted (separateRuns config outputDir fs registry) →
          SameOutcome fs (generateSite fs ⟨none, config, outputDir⟩)
            (separateRuns config outputDir fs registry) := by
        intro haborted
        rw [hruns] at haborted
        obtain ⟨hfiles, hreports, hfails⟩ := generateFrom_separately hpages hstart haborted
        rw [hruns, hloop]
        exact .of_reports hfiles hreports hfails
      refine ⟨⟨fun houtcome => ?_, hsame⟩, fun hvalid => hsame ?_⟩
      · have hfiles := houtcome.files
        obtain ⟨hfull, hsingle⟩ := shown_separateRuns hpages hstart
        simp only [shown?_prepared] at hfull hsingle
        rw [hruns, hloop] at houtcome hfiles
        rw [hruns]
        exact staysAborted_of_sameOutcome hpages hstart hfiles
          (houtcome.length_reports hfull hsingle)
      · rw [hruns]
        refine staysAborted_registry hpages (fun page hpage => (hvalid site rfl page hpage).1)
          fun page hpage => ?_
        rw [shown?_prepared]
        exact (hvalid site rfl page hpage).2

theorem generateSite_separately_small :
    outputsApart (smallSystem "\x7b\x7d") ⟨none, .ofText "config/site.yaml", none⟩
        (fun site => [.ofText "config/site.yaml", site.baseStylesheet]) = true ∧
      (SameOutcome (smallSystem "\x7b\x7d")
          (generateSite (smallSystem "\x7b\x7d") ⟨none, .ofText "config/site.yaml", none⟩)
          (separateRuns (.ofText "config/site.yaml") none (smallSystem "\x7b\x7d") registry) ↔
        StaysAborted (separateRuns (.ofText "config/site.yaml") none
          (smallSystem "\x7b\x7d") registry)) ∧
      (separateRuns (.ofText "config/site.yaml") none (smallSystem "\x7b\x7d") registry).map
        RunResult.isAborted = [false, false, true] :=
  ⟨by decide +kernel,
    (generateSite_separately_iff (smallSystem "\x7b\x7d") (.ofText "config/site.yaml") none
      (by decide +kernel)).1,
    by decide +kernel⟩

/-- The configured path of the first page holds the character zero: that page ends the run over
all pages, but not the runs for the others. -/
theorem generateSite_not_separately :
    outputsApart (smallSystem "pages: \x7bhome: \"\\0\"\x7d")
        ⟨none, .ofText "config/site.yaml", none⟩
        (fun site => [.ofText "config/site.yaml", site.baseStylesheet]) = true ∧
      ¬ SameOutcome (smallSystem "pages: \x7bhome: \"\\0\"\x7d")
        (generateSite (smallSystem "pages: \x7bhome: \"\\0\"\x7d")
          ⟨none, .ofText "config/site.yaml", none⟩)
        (separateRuns (.ofText "config/site.yaml") none
          (smallSystem "pages: \x7bhome: \"\\0\"\x7d") registry) := by
  refine ⟨by decide +kernel, fun houtcome => ?_⟩
  exact absurd houtcome.wrote (by decide +kernel)

end StaticSite
