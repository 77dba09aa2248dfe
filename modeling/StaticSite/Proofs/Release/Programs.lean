/-
StaticSite.Proofs.Release.Programs — the programs of a release read back from their block.

The block has a group of lines for each platform, with an empty line between
neighbours: first a line with the name of the platform, then a line with an
address for each of its targets. No line of a group is empty, so cutting the
block into lines, and the lines at the empty ones, gives the groups
(`splitOn_inside`). What each group was made from is found in it again
(`platformIn?_platformLines`), and so all programs are, in their order
(`programsIn?_binaries`).
-/
import StaticSite.Pages.Changelog
import StaticSite.Proofs.Text.Splitting
import Mathlib.Data.List.Basic

namespace StaticSite.Changelog

open StaticSite.Markup StaticSite.Text

/-! ## 1. Reading -/

/-- What stands between a start and an end that a text has to have. -/
def between? (start stop s : List Char) : Option (List Char) :=
  (s.dropPrefix? start).bind fun rest => rest.dropSuffix? stop

/-- What an address has before its target. -/
def addressStart (site : SiteConfig) (version : String) : String :=
  site.repoUrl ++ "/releases/download/" ++ version ++ "/" ++ site.siteName ++ "-" ++ version ++ "-"

/-- The target that a line has the address for. -/
def targetIn? (site : SiteConfig) (version : String) (line : List Char) : Option String :=
  (between? (addressStart site version).toList ".zip".toList line).map String.ofList

/-- The platform and the targets that a group of lines is about. -/
def platformIn? (site : SiteConfig) (version : String) :
    List (List Char) → Option (String × List String)
  | [] => none
  | first :: rest => do
    let platform ← first.dropPrefix? "# ".toList
    let targets ← rest.mapM (targetIn? site version)
    return (String.ofList platform, targets)

/-- What stands in the block with the programs. -/
def insideOfPrograms? (html : String) : Option (List Char) :=
  between? "<h4>Binaries</h4><div class=\"code-block\">".toList "</div>".toList html.toList

/-- The programs that a block lists: a group of lines for each platform, with an empty line between
two groups. -/
def programsIn? (site : SiteConfig) (version : String) (html : String) : Option Binaries := do
  let inside ← insideOfPrograms? html
  (splitOn List.isEmpty (splitOn (· == '\n') inside)).mapM (platformIn? site version)

theorem between?_append (start inside stop : List Char) :
    between? start stop (start ++ inside ++ stop) = some inside := by
  have hstart : (start ++ (inside ++ stop)).dropPrefix? start = some (inside ++ stop) :=
    List.dropPrefix?_append_of_beq _ (beq_self_eq_true start)
  have hstop : (inside ++ stop).dropSuffix? stop = some inside :=
    List.dropSuffix?_eq_some_iff.mpr ⟨stop, rfl, beq_self_eq_true stop⟩
  rw [between?, List.append_assoc, hstart, Option.bind_some, hstop]

/-! ## 2. The lines of a block -/

/-- The lines of one platform as they are written. -/
def groupOf (site : SiteConfig) (version : String) (platform : String × List String) :
    List (List Char) :=
  ("# " ++ platform.1).toList ::
    platform.2.map fun target => (downloadUrl site version target).toList

/-- A line of a block without a prompt, as it is written. -/
def lineChars (line : Option String) : List Char :=
  (codeLine none line).toList

theorem map_lineChars_platformLines (site : SiteConfig) (version : String)
    (platform : String × List String) :
    (platformLines site version platform).map lineChars = groupOf site version platform := by
  simp [platformLines, groupOf, lineChars, codeLine]

/-- The groups stand one after the other, with an empty line between neighbours. -/
theorem map_lineChars_binaryLines (site : SiteConfig) (version : String) (platforms : Binaries) :
    (binaryLines site version platforms).map lineChars =
      joinLists [[]] (platforms.map (groupOf site version)) := by
  induction platforms with
  | nil => rfl
  | cons platform rest ih =>
    cases rest with
    | nil => exact map_lineChars_platformLines site version platform
    | cons next rest =>
      have hempty : lineChars none = [] := rfl
      rw [binaryLines, List.map_append, List.map_cons, map_lineChars_platformLines, hempty, ih]
      exact List.append_cons _ _ _

/-- All lines of the block of a release. -/
def blockText (site : SiteConfig) (release : Release) : String :=
  joinWith "\n" ((binaryLines site release.version release.binaries).map (codeLine none))

theorem blockText_toList {site : SiteConfig} {release : Release} :
    (blockText site release).toList =
      joinLists ['\n'] ((binaryLines site release.version release.binaries).map lineChars) := by
  have hlineEnd : "\n".toList = ['\n'] := rfl
  rw [blockText, toList_joinWith, List.map_map, hlineEnd]
  rfl

theorem downloadUrl_toList (site : SiteConfig) (version target : String) :
    (downloadUrl site version target).toList =
      (addressStart site version).toList ++ target.toList ++ ".zip".toList := by
  simp only [downloadUrl, addressStart, String.toList_append]

/-- No line of a group is empty, not even for a platform or a target without a name. -/
theorem isEmpty_of_mem_groupOf {site : SiteConfig} {version : String}
    {platform : String × List String} {line : List Char}
    (h : line ∈ groupOf site version platform) :
    line.isEmpty = false := by
  rcases List.mem_cons.mp h with rfl | h
  · rw [String.toList_append]
    rfl
  · obtain ⟨target, -, rfl⟩ := List.mem_map.mp h
    rw [downloadUrl_toList]
    simp

/-! ## 3. Characters of a block -/

/-- The character is in none of the texts that go into the block of a release. -/
structure LacksChar (c : Char) (site : SiteConfig) (release : Release) : Prop where
  repoUrl : c ∉ site.repoUrl.toList
  siteName : c ∉ site.siteName.toList
  version : c ∉ release.version.toList
  platform : ∀ entry ∈ release.binaries, c ∉ entry.1.toList
  target : ∀ entry ∈ release.binaries, ∀ target ∈ entry.2, c ∉ target.toList

/-- The characters that all blocks have in their lines. -/
def fixedChars : List Char :=
  "# /releases/download/-.zip".toList

theorem LacksChar.not_mem {c : Char} {site : SiteConfig} {release : Release}
    (h : LacksChar c site release) (hc : c ∉ fixedChars) {platform : String × List String}
    (hplatform : platform ∈ release.binaries) {line : List Char}
    (hline : line ∈ groupOf site release.version platform) : c ∉ line := by
  have hfixed (s : String) (hs : s.toList ⊆ fixedChars) : c ∉ s.toList := fun hmem => hc (hs hmem)
  rcases List.mem_cons.mp hline with rfl | hline
  · have hsign := hfixed "# " (by decide)
    rw [String.toList_append, List.mem_append, not_or]
    exact ⟨hsign, h.platform platform hplatform⟩
  · obtain ⟨target, htarget, rfl⟩ := List.mem_map.mp hline
    have hfolder := hfixed "/releases/download/" (by decide)
    have hslash := hfixed "/" (by decide)
    have hdash := hfixed "-" (by decide)
    have hend := hfixed ".zip" (by decide)
    have htarget := h.target platform hplatform target htarget
    simp only [downloadUrl, String.toList_append, List.mem_append, not_or, and_assoc]
    exact ⟨h.repoUrl, hfolder, h.version, hslash, h.siteName, hdash, h.version, hdash, htarget,
      hend⟩

/-- The block has only the characters of its texts, the fixed ones, and line ends. -/
theorem LacksChar.not_mem_blockText {c : Char} {site : SiteConfig} {release : Release}
    (h : LacksChar c site release) (hc : c ∉ fixedChars) (hlineEnd : c ≠ '\n') :
    c ∉ (blockText site release).toList := by
  intro hmem
  rw [blockText_toList, map_lineChars_binaryLines] at hmem
  rcases mem_joinLists hmem with hmem | ⟨line, hline, hmem⟩
  · exact hlineEnd (List.mem_singleton.mp hmem)
  · rcases mem_joinLists hline with hempty | ⟨group, hgroup, hline⟩
    · rw [List.mem_singleton.mp hempty] at hmem
      exact absurd hmem List.not_mem_nil
    · obtain ⟨platform, hplatform, rfl⟩ := List.mem_map.mp hgroup
      exact h.not_mem hc hplatform hline hmem

/-! ## 4. Reading back -/

theorem targetIn?_downloadUrl (site : SiteConfig) (version target : String) :
    targetIn? site version (downloadUrl site version target).toList = some target := by
  rw [targetIn?, downloadUrl_toList, between?_append, Option.map_some, String.ofList_toList]

theorem platformIn?_groupOf (site : SiteConfig) (version : String)
    (platform : String × List String) :
    platformIn? site version (groupOf site version platform) = some platform := by
  have hname : ("# " ++ platform.1).toList.dropPrefix? "# ".toList = some platform.1.toList := by
    rw [String.toList_append]
    exact List.dropPrefix?_append_of_beq _ (beq_self_eq_true _)
  have htargets : (platform.2.map fun target => (downloadUrl site version target).toList).mapM
      (targetIn? site version) = some platform.2 := by
    have hread : targetIn? site version ∘ (fun target => (downloadUrl site version target).toList) =
        fun target => pure target := funext fun target => targetIn?_downloadUrl site version target
    rw [List.mapM_map, hread, List.mapM_pure, List.map_id']
    rfl
  rw [groupOf, platformIn?, hname, htargets]
  simp

section

variable {site : SiteConfig} {release : Release}

theorem insideOfPrograms?_binaries (h : release.binaries ≠ []) :
    insideOfPrograms? (binaries site release) = some (blockText site release).toList := by
  have hblock : (binaries site release).toList =
      "<h4>Binaries</h4><div class=\"code-block\">".toList ++ (blockText site release).toList ++
        "</div>".toList := by
    have hnonempty : release.binaries.isEmpty = false := by simpa using h
    rw [binaries, hnonempty]
    simp [codeBlock, blockText, divOf, h4, element, renderElement, renderTexts, valuedAttribute,
      attributeName, String.toList_append, escape_toList, escapeChar]
  rw [insideOfPrograms?, hblock, between?_append]

/-- Cutting the inside of the block into lines, and those at the empty ones, gives the groups. -/
theorem splitOn_inside (h : LacksChar '\n' site release) (hne : release.binaries ≠ []) :
    splitOn List.isEmpty (splitOn (· == '\n') (blockText site release).toList) =
      release.binaries.map (groupOf site release.version) := by
  rw [blockText_toList, map_lineChars_binaryLines]
  have hgroups : release.binaries.map (groupOf site release.version) ≠ [] := by simpa using hne
  have hlines : joinLists [[]] (release.binaries.map (groupOf site release.version)) ≠ [] := by
    obtain ⟨platform, rest, hplatforms⟩ := List.exists_cons_of_ne_nil hne
    rw [hplatforms]
    cases rest with
    | nil => exact List.cons_ne_nil _ _
    | cons next rest => simp [joinLists, groupOf]
  rw [splitOn_joinLists (by decide) hlines, splitOn_joinLists rfl hgroups]
  · intro group hgroup line hline
    obtain ⟨platform, -, rfl⟩ := List.mem_map.mp hgroup
    exact isEmpty_of_mem_groupOf hline
  · intro line hline c hc
    rw [beq_eq_false_iff_ne]
    rintro rfl
    rcases mem_joinLists hline with hline | ⟨group, hgroup, hline⟩
    · rw [List.mem_singleton.mp hline] at hc
      exact absurd hc List.not_mem_nil
    · obtain ⟨platform, hplatform, rfl⟩ := List.mem_map.mp hgroup
      exact h.not_mem (by decide) hplatform hline hc

theorem binaries_eq_empty_iff : binaries site release = "" ↔ release.binaries = [] := by
  rw [binaries]
  cases release.binaries with
  | nil => exact iff_of_true rfl rfl
  | cons platform rest =>
    refine iff_of_false (fun hempty => ?_) (List.cons_ne_nil _ _)
    have hchars := congrArg String.toList hempty
    simp [h4, element, renderElement, String.toList_append] at hchars

/-- The block of a release without line ends in its texts lists exactly its programs: all platforms
in their order, each with its targets in theirs, also those without any. There is no block just if
there is no platform. -/
theorem programsIn?_binaries (h : LacksChar '\n' site release) :
    (release.binaries ≠ [] →
      programsIn? site release.version (binaries site release) = some release.binaries) ∧
      (binaries site release = "" ↔ release.binaries = []) := by
  refine ⟨fun hne => ?_, binaries_eq_empty_iff⟩
  have hread : platformIn? site release.version ∘ groupOf site release.version =
      fun platform => pure platform :=
    funext fun platform => platformIn?_groupOf site release.version platform
  rw [programsIn?, insideOfPrograms?_binaries hne, Option.bind_eq_bind, Option.bind_some,
    splitOn_inside h hne, List.mapM_map, hread, List.mapM_pure, List.map_id']
  rfl

end

/-- A release with a platform without targets, one without a name, and texts that look like other
lines of the block. -/
def oddPrograms : Release :=
  ⟨"v1-", [], [], [("macOS", []), ("", ["", "# Linux", "-.zip"]), ("</div># ", ["</div>"])]⟩

theorem programsIn?_binaries_oddPrograms :
    LacksChar '\n' {} oddPrograms ∧
      programsIn? {} oddPrograms.version (binaries {} oddPrograms) = some oddPrograms.binaries :=
  have hlines : LacksChar '\n' {} oddPrograms :=
    ⟨by decide, by decide, by decide, by decide, by decide⟩
  ⟨hlines, (programsIn?_binaries hlines).1 (by decide)⟩

end StaticSite.Changelog
