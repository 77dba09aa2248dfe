/-
StaticSite.Proofs.Session.Apart — the pages of a session stand apart.

The events of a page and a stylesheet under their names (`State.eventsOf`)
decide all answers about the page. To replay them gives the answers of the
session (`answersOn_eq_replay`): by induction on its steps, since each step
changes the sight by its event and a question is answered from the sight.

So two sessions with the same events give the same answers, whatever else
they do. Steps that are no events may be put in anywhere. The answers right
after them stay the same if the files that are read do, and so do all later
answers as long as the later steps are the same events as before. Without
that a later step can carry a change of another site into a file that is
read, and a name can by then belong to another site. Questions are the same
events, if the same is in the files that are read for them
(`State.eventsOf_questions`).
-/
import StaticSite.Proofs.Config.Loading
import StaticSite.Proofs.Session.Sight

namespace StaticSite.Session

/-! ## 1. Sessions -/

namespace State

/-- The state after some steps. -/
def after (st : State) : List Step → State
  | [] => st
  | s :: rest => (st.step s).1.after rest

/-- The events that some steps are for a page and a stylesheet under their names. -/
def eventsOf (st : State) (name sheet : String) : List Step → List Event
  | [] => []
  | s :: rest => (st.event? name sheet s).toList ++ (st.step s).1.eventsOf name sheet rest

/-- The answers to the questions about a page, and about its document with a stylesheet. -/
def answersOn (st : State) (name sheet : String) (steps : List Step) : List Answer :=
  (steps.zip (st.run steps)).filterMap fun (s, answer) =>
    (s.question? name sheet).map fun _ => answer

variable {st : State} {name sheet : String}

theorem after_append (before rest : List Step) :
    st.after (before ++ rest) = (st.after before).after rest := by
  induction before generalizing st with
  | nil => rfl
  | cons s before ih => exact ih

theorem IsLinked.after (hst : st.IsLinked) (steps : List Step) : (st.after steps).IsLinked := by
  induction steps generalizing st with
  | nil => exact hst
  | cons s rest ih => exact ih (hst.step s)

theorem eventsOf_append (before rest : List Step) :
    st.eventsOf name sheet (before ++ rest) =
      st.eventsOf name sheet before ++ (st.after before).eventsOf name sheet rest := by
  induction before generalizing st with
  | nil => rfl
  | cons s before ih =>
    rw [List.cons_append, eventsOf, eventsOf, ih, List.append_assoc]
    rfl

theorem answersOn_cons (s : Step) (rest : List Step) :
    st.answersOn name sheet (s :: rest) =
      ((s.question? name sheet).map fun _ => (st.step s).2).toList ++
        (st.step s).1.answersOn name sheet rest := by
  rw [answersOn, run, List.zip_cons_cons, List.filterMap_cons]
  cases hq : s.question? name sheet <;> simp [hq, answersOn]

theorem answersOn_append (before rest : List Step) :
    st.answersOn name sheet (before ++ rest) =
      st.answersOn name sheet before ++ (st.after before).answersOn name sheet rest := by
  induction before generalizing st with
  | nil => rfl
  | cons s before ih =>
    rw [List.cons_append, answersOn_cons, answersOn_cons, ih, List.append_assoc]
    rfl

end State

/-! ## 2. Replaying events -/

/-- The answers to the questions among some events, one after the other. -/
def Sight.replay (name sheet : String) (sight : Sight) : List Event → List Answer
  | [] => []
  | e :: rest => (sight.answer? name sheet e).toList ++ (sight.after e).replay name sheet rest

namespace State

variable {st : State} {name sheet : String}

theorem made?_ne_asked (source : PageSource) (site : String) (q : Question)
    (releases : Option (Except (LoadError ReleaseError) (List Release)))
    (css : Option (Except ReadError String)) :
    st.made? source site ≠ some (.asked q releases css) := by
  rw [made?]
  split <;> simp

theorem read?_ne_asked (q : Question)
    (releases : Option (Except (LoadError ReleaseError) (List Release)))
    (css : Option (Except ReadError String)) :
    st.read? sheet ≠ some (.asked q releases css) := by
  rw [read?]
  split <;> simp

/-- A step is answered as its event if it is a question, and else its event has no answer. -/
theorem answer?_event? (s : Step) :
    (st.event? name sheet s).bind ((st.sight name sheet).answer? name sheet) =
      (s.question? name sheet).map fun _ => (st.step s).2 := by
  cases hq : s.question? name sheet with
  | some q =>
    obtain rfl := question?_eq_some_iff.mp hq
    simp only [event?, hq, Option.bind_some, step_question, Option.map_some]
  | none =>
    rw [Option.map_none, Option.bind_eq_none_iff]
    intro e he
    cases e with
    | asked q releases css =>
      exfalso
      cases s <;> simp [event?, hq, Option.bind_eq_some_iff, made?_ne_asked, read?_ne_asked] at he
    | _ => rfl

/-- The answers about a page are those to its events, in the sight that it starts with. -/
theorem answersOn_eq_replay (hst : st.IsLinked) (steps : List Step) :
    st.answersOn name sheet steps =
      (st.sight name sheet).replay name sheet (st.eventsOf name sheet steps) := by
  induction steps generalizing st with
  | nil => rfl
  | cons s rest ih =>
    rw [answersOn_cons, eventsOf, ih (hst.step s), sight_step hst, ← answer?_event?]
    cases st.event? name sheet s <;> rfl

/-- Steps that are no events leave the sight as it is. -/
theorem sight_after (hst : st.IsLinked) {steps : List Step}
    (h : st.eventsOf name sheet steps = []) :
    (st.after steps).sight name sheet = st.sight name sheet := by
  induction steps generalizing st with
  | nil => rfl
  | cons s rest ih =>
    rw [eventsOf, List.append_eq_nil_iff, Option.toList_eq_nil_iff] at h
    rw [after, ih (hst.step s) h.2, sight_step hst, h.1, Option.elim_none]

/-- Where the sights are the same and the same is found, the answers are the same. -/
theorem answer_congr {st' : State} (hsight : st'.sight name sheet = st.sight name sheet)
    (q : Question) (hasked : (st.sight name sheet).asked st'.files q =
      (st.sight name sheet).asked st.files q) :
    (st'.step (q.step name sheet)).2 = (st.step (q.step name sheet)).2 := by
  have hthere := step_question st' name sheet q
  rw [hsight, hasked, step_question] at hthere
  exact (Option.some.inj hthere).symm

end State

/-! ## 3. Steps elsewhere -/

namespace State

/-- Does a step act only on other sites, pages and stylesheets, and on files? -/
def isElsewhere (st : State) (name sheet : String) : Step → Bool
  | .changeSite site _ | .addLink site _ => !st.isSiteOf site name
  | .page other _ _ | .title other | .header other | .content other => other != name
  | .stylesheet other _ | .css other => other != sheet
  | .render other style | .generate other style _ => other != name && style != sheet
  | _ => true

/-- Do all of some steps act elsewhere, each at its own moment? -/
def areElsewhere (st : State) (name sheet : String) : List Step → Bool
  | [] => true
  | s :: rest => st.isElsewhere name sheet s && (st.step s).1.areElsewhere name sheet rest

variable {st : State} {name sheet : String}

theorem event?_of_isElsewhere {s : Step} (h : st.isElsewhere name sheet s = true) :
    st.event? name sheet s = none := by
  cases s <;> simp_all [isElsewhere, event?, Step.question?, useOf?]

theorem eventsOf_of_areElsewhere {steps : List Step}
    (h : st.areElsewhere name sheet steps = true) : st.eventsOf name sheet steps = [] := by
  induction steps generalizing st with
  | nil => rfl
  | cons s rest ih =>
    rw [areElsewhere, Bool.and_eq_true] at h
    rw [eventsOf, event?_of_isElsewhere h.1, ih h.2]
    rfl

end State

/-! ## 4. The pages of a session -/

/-- The text of a stylesheet, or the reason why it has none, if there is such a stylesheet. -/
def State.text? (st : State) (sheet : String) : Option (Except ReadError String) :=
  (find? sheet st.sheets).map fun style => (style.text st.files).2

/-- The files that are read for the answers about a page are still the same: the one of its
releases, if it looks for them, and the one of the stylesheet, if that has not been read. -/
structure State.ReadsSame (st : State) (name sheet : String) (files : FileSystem) : Prop where
  releases : ∀ page site, (st.sight name sheet).shown = some (page, site) →
    page.body = .releases none → files.stat site.releasesFile = st.files.stat site.releasesFile
  stylesheet : ∀ style, (st.sight name sheet).sheet = some style → style.cached = none →
    files.stat style.path = st.files.stat style.path

/-- What the answers about a page come from, in all sessions: for the page under a name, and for
its documents with the stylesheet under another name. -/
structure StandsApart (name sheet : String) : Prop where
  /-- The answer to a question is a function of the page, the present values of its site, the
  file of the releases if the page looks for them, and for a document the text of the
  stylesheet. -/
  answered : ∀ (st st' : State) (q : Question) (made made' : PageOver),
    find? name st.pages = some made → find? name st'.pages = some made' →
    made.page = made'.page → st.siteAt made.site = st'.siteAt made'.site →
    (made.page.body = .releases none →
      st.files.stat (st.siteAt made.site).releasesFile =
        st'.files.stat (st.siteAt made.site).releasesFile) →
    (q = .document → st.text? sheet = st'.text? sheet) →
    (st.step (q.step name sheet)).2 = (st'.step (q.step name sheet)).2
  /-- Two sessions that are the same events for the page and the stylesheet give the same
  answers, whatever else they do and whatever files they start from. -/
  determined : ∀ (files files' : FileSystem) (steps steps' : List Step),
    (State.start files).eventsOf name sheet steps =
      (State.start files').eventsOf name sheet steps' →
    (State.start files).answersOn name sheet steps =
      (State.start files').answersOn name sheet steps'
  /-- Steps that act on other sites, pages and stylesheets, and on files, are no events. -/
  elsewhere : ∀ (st : State) (steps : List Step), st.areElsewhere name sheet steps = true →
    st.eventsOf name sheet steps = []
  /-- Steps that are no events may come before a question without changing its answer, if they
  leave the files alone that are read for it. -/
  atOnce : ∀ (files : FileSystem) (before inserted : List Step) (q : Question),
    let st := (State.start files).after before
    st.eventsOf name sheet inserted = [] →
    st.ReadsSame name sheet (st.after inserted).files →
    ((st.after inserted).step (q.step name sheet)).2 = (st.step (q.step name sheet)).2
  /-- They change no later answer either, if the later steps still are the same events. -/
  later : ∀ (files : FileSystem) (before inserted rest : List Step),
    let st := (State.start files).after before
    st.eventsOf name sheet inserted = [] →
    (st.after inserted).eventsOf name sheet rest = st.eventsOf name sheet rest →
    (State.start files).answersOn name sheet (before ++ inserted ++ rest) =
      (State.start files).answersOn name sheet (before ++ rest)
  /-- To make or load a site changes no answer, also under the name of the page's own site. -/
  recreated : ∀ (files : FileSystem) (before : List Step) (other : String) (site : SiteConfig)
    (p : Path) (q : Question),
    let st := (State.start files).after before
    ((st.step (.site other site)).1.step (q.step name sheet)).2 = (st.step (q.step name sheet)).2 ∧
      ((st.step (.loadSite other p)).1.step (q.step name sheet)).2 =
        (st.step (q.step name sheet)).2
  /-- A change of a site shows in the page if the site is its own. -/
  shared : ∀ (files : FileSystem) (before : List Step) (other : String) (made : PageOver),
    let st := (State.start files).after before
    find? name st.pages = some made → find? other st.siteNumbers = some made.site →
    (∀ change, ((st.step (.changeSite other change)).1.sight name sheet).shown =
      some (made.page, change (st.siteAt made.site))) ∧
    ∀ link, ((st.step (.addLink other link)).1.sight name sheet).shown =
      some (made.page, { st.siteAt made.site with
        navLinks := (st.siteAt made.site).navLinks ++ [link] })
  /-- A site that is made or loaded without links starts with the usual ones. -/
  startLinks : ∀ (files : FileSystem) (before : List Step) (other : String),
    let st := (State.start files).after before
    (∀ site : SiteConfig, site.navLinks = ({} : SiteConfig).navLinks →
      ((st.step (.site other site)).1.step (.links other)).2 = .links defaultNavLinks) ∧
    ∀ (p : Path) (v : Value) (site : SiteConfig), st.files.readData p = .ok v →
      (∀ entries, v.entries? = some entries → entryOf "nav_links" entries = .null) →
      SiteConfig.ofValue v = .ok site →
      (st.step (.loadSite other p)).2 = .site site ∧
        ((st.step (.loadSite other p)).1.step (.links other)).2 = .links defaultNavLinks

namespace State

variable {st : State} {name sheet : String}

theorem shown_of_find? (sheet : String) {made : PageOver}
    (hpage : find? name st.pages = some made) :
    (st.sight name sheet).shown = some (made.page, st.siteAt made.site) := by
  rw [sight, hpage, Option.map_some]

theorem ReadsSame.asked_eq {files : FileSystem} (h : st.ReadsSame name sheet files)
    (q : Question) :
    (st.sight name sheet).asked files q = (st.sight name sheet).asked st.files q := by
  simp only [Sight.asked]
  split
  · rename_i page site hshown
    rw [Page.found?_congr (h.releases page site hshown)]
  · rename_i page site style hshown hsheet
    rw [Page.found?_congr (h.releases page site hshown),
      Stylesheet.found?_congr (h.stylesheet style hsheet)]
  · rfl

/-- The files that are read stay the same while questions are asked. -/
theorem ReadsSame.question {files : FileSystem} (h : st.ReadsSame name sheet files)
    (q : Question) : (st.step (q.step name sheet)).1.ReadsSame name sheet files := by
  obtain ⟨releases, css, hasked⟩ := (st.sight name sheet).exists_asked st.files q
  have hsight : (st.step (q.step name sheet)).1.sight name sheet =
      (st.sight name sheet).after (.asked q releases css) := by
    rw [sight_question, hasked]
  refine ⟨fun page site hshown hbody => ?_, fun style hsheet hunread => ?_⟩
  · rw [files_question]
    rw [hsight] at hshown
    exact h.releases page site hshown hbody
  · rw [files_question]
    rw [hsight] at hsheet
    obtain ⟨before, hbefore, rfl⟩ := Option.map_eq_some_iff.mp hsheet
    have hsame := Stylesheet.readBy_of_cached_eq_none hunread
    rw [hsame] at hunread ⊢
    exact h.stylesheet before hbefore hunread

/-- Questions are the same events in two sessions with the same sight, if the files that are read
for them are the same. -/
theorem eventsOf_questions {st' : State} (hsight : st'.sight name sheet = st.sight name sheet)
    (h : st.ReadsSame name sheet st'.files) (questions : List Question) :
    st'.eventsOf name sheet (questions.map (Question.step name sheet)) =
      st.eventsOf name sheet (questions.map (Question.step name sheet)) := by
  induction questions generalizing st st' with
  | nil => rfl
  | cons q rest ih =>
    have hasked : (st'.sight name sheet).asked st'.files q =
        (st.sight name sheet).asked st.files q := by
      rw [hsight]
      exact h.asked_eq q
    have hevent : st'.event? name sheet (q.step name sheet) =
        st.event? name sheet (q.step name sheet) := by
      simp only [event?, question?_eq_some_iff.mpr rfl, hasked]
    have hnext : (st'.step (q.step name sheet)).1.sight name sheet =
        (st.step (q.step name sheet)).1.sight name sheet := by
      rw [sight_question, sight_question, hasked, hsight]
    have hreads : (st.step (q.step name sheet)).1.ReadsSame name sheet
        (st'.step (q.step name sheet)).1.files := by
      rw [files_question]
      exact h.question q
    rw [List.map_cons, eventsOf, eventsOf, hevent, ih hnext hreads]

/-- A new site changes no answer, whatever name it gets. -/
theorem answer_addSite (hst : st.IsLinked) (other : String) (site : SiteConfig) (q : Question) :
    ((st.addSite other site).step (q.step name sheet)).2 = (st.step (q.step name sheet)).2 :=
  answer_congr (sight_addSite hst other site) q rfl

/-- A change of the site of a page shows in it. -/
theorem shown_changeSite (hst : st.IsLinked) {other : String} {made : PageOver}
    (hpage : find? name st.pages = some made) (hsite : find? other st.siteNumbers = some made.site)
    (change : SiteConfig → SiteConfig) :
    ((st.changeSite made.site change).sight name sheet).shown =
      some (made.page, change (st.siteAt made.site)) := by
  have hown : st.isSiteOf other name = true := by simp [isSiteOf, hpage, hsite]
  rw [sight_changeSite hst hsite, if_pos hown]
  simp [sight, Sight.after, hpage]

/-- The links of a new site are its own. -/
theorem links_addSite (st : State) (other : String) (site : SiteConfig) :
    ((st.addSite other site).step (.links other)).2 = .links site.navLinks := by
  simp [step, addSite, find?_put, siteAt]

end State

theorem standsApart (name sheet : String) : StandsApart name sheet where
  answered := by
    intro st st' q made made' hpage hpage' hsame hsite hreleases hcss
    have hfound : made.page.found? (st.siteAt made.site) st.files =
        made.page.found? (st.siteAt made.site) st'.files := Page.found?_congr hreleases
    cases q with
    | title | header =>
      simp only [Question.step, State.step, State.withPage, hpage, hpage', hsame, hsite]
    | content =>
      simp only [Question.step, State.step, State.withPage, hpage, hpage', Page.content_eq, ← hsame,
        ← hsite, hfound]
    | document =>
      have hcss := (hcss rfl).symm
      cases hsheet : find? sheet st.sheets with
      | none =>
        have hsheet' : find? sheet st'.sheets = none := by
          simpa [State.text?, hsheet] using hcss
        simp only [Question.step, State.step, hpage, hpage', hsheet, hsheet']
      | some style =>
        obtain ⟨style', hsheet', htext⟩ : ∃ style', find? sheet st'.sheets = some style' ∧
            (style'.text st'.files).2 = (style.text st.files).2 := by
          simpa [State.text?, hsheet] using hcss
        simp only [Question.step, State.step, hpage, hpage', hsheet, hsheet',
          Page.render_documentWith, Page.documentWith_eq, htext, ← hsame, ← hsite, hfound]
  determined := by
    intro files files' steps steps' h
    rw [State.answersOn_eq_replay (State.isLinked_start files), h,
      State.answersOn_eq_replay (State.isLinked_start files')]
    rfl
  elsewhere := fun st steps h => State.eventsOf_of_areElsewhere h
  atOnce := by
    intro files before inserted q st hinserted hreads
    have hst : st.IsLinked := (State.isLinked_start files).after before
    exact State.answer_congr (State.sight_after hst hinserted) q (hreads.asked_eq q)
  later := by
    intro files before inserted rest st hinserted hrest
    have hst : st.IsLinked := (State.isLinked_start files).after before
    have hnone : st.answersOn name sheet inserted = [] := by
      rw [State.answersOn_eq_replay hst, hinserted]
      rfl
    have hsame : (st.after inserted).answersOn name sheet rest = st.answersOn name sheet rest := by
      rw [State.answersOn_eq_replay (hst.after inserted), State.answersOn_eq_replay hst, hrest,
        State.sight_after hst hinserted]
    rw [State.answersOn_append, State.answersOn_append, State.answersOn_append, State.after_append,
      hnone, hsame, List.append_nil]
  recreated := by
    intro files before other site p q st
    have hst : st.IsLinked := (State.isLinked_start files).after before
    refine ⟨State.answer_addSite hst other site q, ?_⟩
    rcases State.step_loadSite st other p with h | ⟨loaded, h⟩ <;> rw [h]
    exact State.answer_addSite hst other loaded q
  shared := by
    intro files before other made st hpage hsite
    have hst : st.IsLinked := (State.isLinked_start files).after before
    refine ⟨fun change => ?_, fun link => ?_⟩
    · simp only [State.step, hsite]
      exact State.shown_changeSite hst hpage hsite change
    · simp only [State.step, hsite]
      exact State.shown_changeSite hst hpage hsite _
  startLinks := by
    intro files before other st
    refine ⟨fun site hlinks => ?_, fun p v site hread hnone hvalue => ?_⟩
    · have hstep : (st.step (.site other site)).1 = st.addSite other site := rfl
      rw [hstep, State.links_addSite, hlinks]
    · have hload : SiteConfig.load st.files p = .ok site := by
        simp only [SiteConfig.load, FileSystem.loadData, hread, hvalue]
      have hstep : st.step (.loadSite other p) = (st.addSite other site, .site site) := by
        simp only [State.step, hload]
      rw [hstep, State.links_addSite, navLinks_of_ofValue hnone hvalue]
      exact ⟨rfl, rfl⟩

/-- Two sites with a page over each, and two stylesheets, of which one has no file. -/
def twoSites : List Step :=
  [.write (.ofText "config/releases.yaml") .empty, .write (.ofText "plain.css") .empty,
    .stylesheet "plain" (.ofText "plain.css"), .stylesheet "main" (.ofText "style/main.css"),
    .site "own" {}, .site "other" {}, .page "front" (.custom ⟨{}, .markup ""⟩) "own",
    .page "back" (.registered "releases" none) "other"]

/-- The second of the two sites with its page and its stylesheet, alone. -/
def oneSite : List Step :=
  [.write (.ofText "config/releases.yaml") .empty, .write (.ofText "plain.css") .empty,
    .stylesheet "plain" (.ofText "plain.css"), .site "other" {},
    .page "back" (.registered "releases" none) "other"]

/-- Steps of others: the page of the first site is written with its own stylesheet, the site is
changed, a third one gets a page, and files come and go. -/
def otherBusiness : List Step :=
  [.makeDirectory (.ofText "out"), .write (.ofText "style/main.css") .empty,
    .generate "front" "main" (.ofText "out/front.html"), .addLink "own" ⟨"News", "news.html"⟩,
    .changeSite "own" fun site => { site with siteName := "x" }, .site "third" {},
    .page "side" (.registered "home" none) "third", .css "main",
    .writeText (.ofText "notes.txt") (.ofString "later"), .delete (.ofText "style/main.css")]

theorem readsSame_back {files : FileSystem}
    (hreleases : files.stat (.ofText "config/releases.yaml") = .ok (.file .empty))
    (hsheet : files.stat (.ofText "plain.css") = .ok (.file .empty)) :
    ((State.start (.empty [])).after twoSites).ReadsSame "back" "plain" files := by
  refine ⟨fun page site hshown _ => ?_, fun style hstyle _ => ?_⟩
  · obtain ⟨rfl, rfl⟩ : _ = page ∧ _ = site := Prod.mk.inj (Option.some.inj hshown)
    exact hreleases
  · obtain rfl : _ = style := Option.some.inj hstyle
    exact hsheet

theorem readData_twoSites : ((State.start (.empty [])).after twoSites).files.readData
    (.ofText "config/releases.yaml") = .ok .null := rfl

theorem sight_oneSite : ((State.start (.empty [])).after oneSite).sight "back" "plain" =
    ((State.start (.empty [])).after twoSites).sight "back" "plain" := rfl

theorem eventsOf_twoSites : (State.start (.empty [])).eventsOf "back" "plain" twoSites =
    (State.start (.empty [])).eventsOf "back" "plain" oneSite := rfl

theorem readsSame_oneSite : ((State.start (.empty [])).after twoSites).ReadsSame "back" "plain"
    ((State.start (.empty [])).after oneSite).files :=
  readsSame_back rfl rfl

theorem readsSame_otherBusiness : ((State.start (.empty [])).after twoSites).ReadsSame "back"
    "plain" (((State.start (.empty [])).after twoSites).after otherBusiness).files :=
  readsSame_back rfl rfl

/-- The page of the second site is answered as if that were alone, also after steps of others. -/
theorem standsApart_twoSites :
    let start := State.start (.empty [])
    let st := start.after twoSites
    (∀ q : Question, (st.step (q.step "back" "plain")).2 =
        ((start.after oneSite).step (q.step "back" "plain")).2) ∧
      (∀ questions : List Question,
        start.answersOn "back" "plain" (twoSites ++ questions.map (Question.step "back" "plain")) =
          start.answersOn "back" "plain"
            (oneSite ++ questions.map (Question.step "back" "plain"))) ∧
      (∀ q : Question, ((st.after otherBusiness).step (q.step "back" "plain")).2 =
        (st.step (q.step "back" "plain")).2) ∧
      (∀ questions : List Question,
        start.answersOn "back" "plain"
            (twoSites ++ otherBusiness ++ questions.map (Question.step "back" "plain")) =
          start.answersOn "back" "plain"
            (twoSites ++ questions.map (Question.step "back" "plain"))) ∧
      (∃ made, find? "back" st.pages = some made ∧
        ∀ change, ((st.step (.changeSite "other" change)).1.sight "back" "plain").shown =
          some (made.page, change (st.siteAt made.site))) ∧
      ((st.step (.loadSite "own" (.ofText "config/releases.yaml"))).1.step (.links "own")).2 =
        .links defaultNavLinks := by
  intro start st
  have apart := standsApart "back" "plain"
  have hst : st.IsLinked := (State.isLinked_start _).after twoSites
  have hnone : st.eventsOf "back" "plain" otherBusiness = [] :=
    apart.elsewhere st otherBusiness (by decide +kernel)
  obtain ⟨made, hpage, hown⟩ : ∃ made, find? "back" st.pages = some made ∧
      find? "other" st.siteNumbers = some made.site := ⟨_, rfl, rfl⟩
  obtain ⟨made', hpage'⟩ : ∃ made', find? "back" (start.after oneSite).pages = some made' :=
    ⟨_, rfl⟩
  have hshown := State.shown_of_find? "plain" hpage
  obtain ⟨hpages, hsites⟩ := Prod.mk.inj (Option.some.inj
    (hshown.symm.trans
      ((congrArg Sight.shown sight_oneSite.symm).trans (State.shown_of_find? "plain" hpage'))))
  refine ⟨fun q => ?_, fun questions => ?_, fun q => ?_, fun questions => ?_, ?_, ?_⟩
  · exact apart.answered st (start.after oneSite) q made made' hpage hpage' hpages hsites
      (fun hbody => (readsSame_oneSite.releases _ _ hshown hbody).symm) fun _ => by decide +kernel
  · refine apart.determined (.empty []) (.empty []) _ _ ?_
    rw [State.eventsOf_append, State.eventsOf_append, eventsOf_twoSites,
      State.eventsOf_questions sight_oneSite readsSame_oneSite]
  · exact apart.atOnce (.empty []) twoSites otherBusiness q hnone readsSame_otherBusiness
  · exact apart.later (.empty []) twoSites otherBusiness _ hnone
      (State.eventsOf_questions (State.sight_after hst hnone) readsSame_otherBusiness questions)
  · exact ⟨made, hpage, (apart.shared (.empty []) twoSites "other" made hpage hown).1⟩
  · exact ((apart.startLinks (.empty []) twoSites "own").2 _ .null {} readData_twoSites
      (by rintro entries ⟨⟩) rfl).2

/-! ## 5. What later steps carry over -/

/-- The other site gets a file of releases that does not exist. -/
def dropReleases : Step :=
  .changeSite "other" fun site => { site with releasesFile := .ofText "none.yaml" }

/-- The page of the other site is written to a file where the stylesheet needs a directory. -/
def writeBack : List Step :=
  [.generate "back" "plain" (.ofText "style"), .render "front" "main"]

/-- The site under the name gets another name of its own. -/
def renameOwn : List Step :=
  [.changeSite "own" fun site => { site with siteName := "x" }, .title "front"]

/-- A step that acts elsewhere can change a later answer about a page. First, a later step writes
a page of the site that it has changed, or fails to, in the way of the stylesheet. Second, it gives
the name of the page's site to a new site, and a later change under that name no longer is one of
the page's site. -/
theorem inserted_reaches_page :
    (((State.start (.empty [])).after twoSites).areElsewhere "front" "main" [dropReleases] = true ∧
      (State.start (.empty [])).answersOn "front" "main" (twoSites ++ writeBack) =
        [.failed (.page (.stylesheet (.access
          (.unavailable ⟨.ofText "style/main.css", .notDirectory⟩))))] ∧
      (State.start (.empty [])).answersOn "front" "main" (twoSites ++ [dropReleases] ++ writeBack) =
        [.failed (.page (.stylesheet (.access
          (.unavailable ⟨.ofText "style/main.css", .notFound⟩))))]) ∧
    ((State.start (.empty [])).after twoSites).areElsewhere "front" "main" [.site "own" {}] =
        true ∧
      (State.start (.empty [])).answersOn "front" "main" (twoSites ++ renameOwn) =
        [.title "x - A Command-Line JSON Viewer" "./assets/logo/mascot.svg"] ∧
      (State.start (.empty [])).answersOn "front" "main"
          (twoSites ++ [.site "own" {}] ++ renameOwn) =
        [.title "jless - A Command-Line JSON Viewer" "./assets/logo/mascot.svg"] :=
  ⟨⟨by decide +kernel, by decide +kernel, by decide +kernel⟩,
    by decide +kernel, by decide +kernel, by decide +kernel⟩

end StaticSite.Session
