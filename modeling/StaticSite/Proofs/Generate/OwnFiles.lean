/-
StaticSite.Proofs.Generate.OwnFiles — where the pages of a site are written.

The file name of a page is a path of its own, given or usual, that is seen
from the output directory. It can lead anywhere: an absolute name stays as
it is, two dots lead up, a name of dots and slashes leads to the directory
itself, and two pages can have the same name. `Path.below?` is the way from
the directory to the file, where there is one that only leads down. The
pages have files of their own in the directory exactly if these ways are
there, are not empty, hold no two dots and differ (`hasOwnFiles_iff`).
-/
import Mathlib.Data.List.Nodup
import StaticSite.Proofs.Files.PathText
import StaticSite.Proofs.Generate.Attempts

namespace StaticSite

/-! ## 1. Ways down -/

namespace Path

/-- The path is a directory followed by at least one more part, with no two dots among those that
follow. -/
def LiesIn (p directory : Path) : Prop :=
  ∃ way, p = ⟨directory.root, directory.parts ++ way⟩ ∧ way ≠ [] ∧ ".." ∉ way

/-- The parts that follow a directory when a name is seen from it, if the directory comes first
then. -/
def below? (directory name : Path) : Option (List String) :=
  if name.isAbsolute then (name.relativeTo? directory).map parts else some name.parts

theorem below?_eq_some_iff {directory name : Path} {way : List String} :
    directory.below? name = some way ↔
      directory.join name = ⟨directory.root, directory.parts ++ way⟩ := by
  obtain ⟨root, parts⟩ := name
  rw [below?, join]
  split
  · rw [relativeTo?]
    by_cases hroot : root = directory.root
    · simp [hroot, dropParts?_eq_some_iff]
    · simp [hroot]
  · simp

theorem join_liesIn_iff {directory name : Path} :
    (directory.join name).LiesIn directory ↔
      ∃ way, directory.below? name = some way ∧ way ≠ [] ∧ ".." ∉ way := by
  simp only [LiesIn, below?_eq_some_iff]

end Path

/-! ## 2. The files of the pages -/

namespace SiteConfig

variable (site : SiteConfig)

/-- The name of a page's file: the one that is configured for it, or else its usual one. -/
def fileName (page : Page) : Path :=
  .ofText ((outputName? page.frame.key site.pageOutputs).getD page.frame.filename)

/-- The way from the output directory down to a page's file, if there is one. -/
def wayTo? (page : Page) : Option (List String) :=
  site.outputDir.below? (site.fileName page)

/-- No two pages of the registry have the same file, and all files lie in the output directory. -/
structure HasOwnFiles : Prop where
  apart : ∀ p ∈ registry, ∀ q ∈ registry, p.target site = q.target site → p = q
  inside : ∀ page ∈ registry, (page.target site).LiesIn site.outputDir

variable {site}

theorem target_eq_join (page : Page) :
    page.target site = site.outputDir.join (site.fileName page) :=
  rfl

/-- Files in the directory are the same exactly if the ways to them are. -/
theorem target_inj_iff {p q : Page} (hp : (p.target site).LiesIn site.outputDir)
    (hq : (q.target site).LiesIn site.outputDir) :
    p.target site = q.target site ↔ site.wayTo? p = site.wayTo? q := by
  rw [target_eq_join, Path.join_liesIn_iff] at hp hq
  obtain ⟨way, hway, -⟩ := hp
  obtain ⟨other, hother, -⟩ := hq
  rw [wayTo?, wayTo?, hway, hother, target_eq_join, target_eq_join,
    Path.below?_eq_some_iff.mp hway, Path.below?_eq_some_iff.mp hother]
  simp

theorem hasOwnFiles_iff_wayTo? :
    site.HasOwnFiles ↔ (registry.map site.wayTo?).Nodup ∧
      ∀ page ∈ registry, ∃ way, site.wayTo? page = some way ∧ way ≠ [] ∧ ".." ∉ way := by
  rw [List.nodup_map_iff_inj_on registry_nodup]
  constructor
  · intro h
    refine ⟨fun p hp q hq heq => ?_, fun page hpage => ?_⟩
    · exact h.apart p hp q hq ((target_inj_iff (h.inside p hp) (h.inside q hq)).mpr heq)
    · exact Path.join_liesIn_iff.mp (h.inside page hpage)
  · intro h
    have hinside : ∀ page ∈ registry, (page.target site).LiesIn site.outputDir :=
      fun page hpage => Path.join_liesIn_iff.mpr (h.2 page hpage)
    refine ⟨fun p hp q hq heq => ?_, hinside⟩
    exact h.1 p hp q hq ((target_inj_iff (hinside p hp) (hinside q hq)).mp heq)

theorem wayTo?_of_usual {page : Page} (hpage : page ∈ registry)
    (hnone : outputName? page.frame.key site.pageOutputs = none) :
    site.wayTo? page = some (Path.ofText page.frame.filename).parts := by
  have hrelative : ∀ page ∈ registry, (Path.ofText page.frame.filename).isAbsolute = false := by
    decide
  rw [wayTo?, fileName, hnone, Option.getD_none, Path.below?, hrelative page hpage]
  rfl

/-- The usual names are names of different files in the directory. -/
theorem hasOwnFiles_of_usual
    (hnone : ∀ page ∈ registry, outputName? page.frame.key site.pageOutputs = none) :
    site.HasOwnFiles := by
  have hways : registry.map site.wayTo? =
      registry.map fun page => some (Path.ofText page.frame.filename).parts :=
    List.map_congr_left fun page hpage => wayTo?_of_usual hpage (hnone page hpage)
  have hparts : ∀ page ∈ registry, (Path.ofText page.frame.filename).parts ≠ [] ∧
      ".." ∉ (Path.ofText page.frame.filename).parts := by
    decide
  rw [hasOwnFiles_iff_wayTo?, hways]
  refine ⟨by decide, fun page hpage => ?_⟩
  exact ⟨_, wayTo?_of_usual hpage (hnone page hpage), hparts page hpage⟩

/-- The pages of a site have files of their own in its output directory, which may be one that was
asked for in place of the configured one, exactly if the ways to them lead down, are not empty and
differ. They do if no names are configured. -/
theorem hasOwnFiles_iff (site : SiteConfig) :
    (site.HasOwnFiles ↔ (registry.map site.wayTo?).Nodup ∧
      ∀ page ∈ registry, ∃ way, site.wayTo? page = some way ∧ way ≠ [] ∧ ".." ∉ way) ∧
    ((∀ page ∈ registry, outputName? page.frame.key site.pageOutputs = none) →
      site.HasOwnFiles) :=
  ⟨hasOwnFiles_iff_wayTo?, hasOwnFiles_of_usual⟩

theorem hasOwnFiles_default : ({} : SiteConfig).HasOwnFiles :=
  (hasOwnFiles_iff {}).2 (by decide)

/-- The landing page has the name of the releases, and the user guide is written outside. -/
def strayNames : SiteConfig :=
  { pageOutputs := [("home", "releases.html"), ("user-guide", "../guide.html")] }

/-- Such a site is loaded without complaint. -/
theorem runSite_strayNames :
    runSite (smallSystem "pages: \x7bhome: releases.html, user-guide: ../guide.html\x7d") {} =
        .ok strayNames ∧
      homePage.target strayNames = releasesPage.target strayNames ∧
      ¬ (userGuidePage.target strayNames).LiesIn strayNames.outputDir ∧
      ¬ strayNames.HasOwnFiles := by
  have houtside : ¬ (userGuidePage.target strayNames).LiesIn strayNames.outputDir := by
    rw [target_eq_join, Path.join_liesIn_iff]
    rintro ⟨way, hway, -, hup⟩
    have hguide : strayNames.outputDir.below? (strayNames.fileName userGuidePage) =
        some ["..", "guide.html"] := by
      decide
    rw [hguide, Option.some.injEq] at hway
    exact hup (hway ▸ List.mem_cons_self)
  refine ⟨by decide +kernel, by decide, houtside, fun h => ?_⟩
  exact houtside (h.inside userGuidePage (by simp [registry]))

end SiteConfig

end StaticSite
