/-
StaticSite.Proofs.Release.Versions — the versions of loaded releases.

The version of a release is the stripped text of a value that is not void. All
values but texts are shown with a character that is not blank
(`hasInk_memberText`), so nothing is left of a version just if it was given as a
text of blank characters (`Release.IsFrom.version_eq_empty_iff`). The check that
a version is there does not find those, since it looks at the value and not at
what is left of its text. So the versions of loaded releases are stripped, and
they are all usable just if no entry gives such a text
(`loadReleases_isStripped_iff`).
-/
import StaticSite.Proofs.Generate.Resuming
import StaticSite.Proofs.Release.EntryByEntry
import StaticSite.Proofs.Number.Shown

namespace StaticSite

open StaticSite.Text StaticSite.Number

/-! ## 1. What is shown -/

theorem trim_eq_nil_iff {s : List Char} : trim s = [] ↔ ∀ c ∈ s, isBlank c = true := by
  constructor
  · intro h c hc
    rw [trim, dropEndBlank, dropEndWhile, List.reverse_eq_nil_iff, List.dropWhile_eq_nil_iff] at h
    rw [← List.takeWhile_append_dropWhile (p := isBlank) (l := s), List.mem_append] at hc
    rcases hc with hfront | hrest
    · exact List.mem_takeWhile_imp hfront
    · exact h c (List.mem_reverse.mpr hrest)
  · intro h
    rw [trim, dropBlank, List.dropWhile_eq_nil_iff.mpr h]
    rfl

theorem strip_eq_empty_iff {s : String} : strip s = "" ↔ allBlank s.toList = true := by
  rw [strip, String.ofList_eq_empty_iff, trim_eq_nil_iff, allBlank, List.all_eq_true]

/-- The text has a character that is not blank. -/
def HasInk (s : List Char) : Prop :=
  ∃ c ∈ s, isBlank c = false

theorem hasInk_cons {c : Char} (hc : isBlank c = false) (s : List Char) : HasInk (c :: s) :=
  ⟨c, List.mem_cons_self, hc⟩

theorem hasInk_of_mem {s : List Char} (c : Char) (hmem : c ∈ s) (hc : isBlank c = false) :
    HasInk s :=
  ⟨c, hmem, hc⟩

theorem hasInk_of_isGraphic {s : List Char} (hne : s ≠ []) (hs : ∀ c ∈ s, IsGraphic c) :
    HasInk s := by
  obtain ⟨c, hc⟩ := List.exists_mem_of_ne_nil s hne
  exact hasInk_of_mem c hc (isBlank_of_isGraphic (hs c hc))

theorem hasInk_natText (n : Nat) : HasInk (natText n) :=
  hasInk_of_isGraphic (natText_ne_nil n) fun _ hc => isGraphic_of_mem_natText hc

theorem hasInk_intText (n : Int) : HasInk (intText n) := by
  cases n with
  | ofNat n => exact hasInk_natText n
  | negSucc n => exact hasInk_cons (by decide) _

theorem HasInk.append {s : List Char} (h : HasInk s) (front : List Char) : HasInk (front ++ s) := by
  obtain ⟨c, hmem, hc⟩ := h
  exact ⟨c, List.mem_append_right front hmem, hc⟩

theorem hasInk_binary64 (x : Binary64) : HasInk x.text :=
  hasInk_of_isGraphic x.text_ne_nil x.isGraphic_text

theorem hasInk_dots (v : Value) : HasInk v.dots := by
  cases v <;> exact hasInk_cons (by decide) _

theorem hasInk_quoted (s : List Char) : HasInk (quoted s) := by
  unfold quoted quoteFor
  dsimp only
  split <;> exact hasInk_cons (by decide) _

theorem hasInk_dateMember (d : Date) : HasInk (Value.dateMember d) := by
  unfold Value.dateMember
  exact (hasInk_cons (by decide) []).append _

theorem hasInk_momentMember (m : Moment) : HasInk (Value.momentMember m) := by
  unfold Value.momentMember
  exact (hasInk_cons (by decide) []).append _

theorem hasInk_truth (b : Bool) (around : List Nat) :
    HasInk ((Value.bool b).memberText around) := by
  cases b with
  | true =>
    change HasInk "True".toList
    exact hasInk_of_mem 'T' (by decide) (by decide)
  | false =>
    change HasInk "False".toList
    exact hasInk_of_mem 'F' (by decide) (by decide)

/-- All that is shown of a value inside another one has a mark, a letter or a digit. -/
theorem hasInk_memberText (around : List Nat) (v : Value) : HasInk (v.memberText around) := by
  cases v with
  | tied mark v =>
    unfold Value.memberText
    split
    · exact hasInk_dots v
    · exact hasInk_memberText (mark :: around) v
  | null =>
    change HasInk "None".toList
    exact hasInk_of_mem 'N' (by decide) (by decide)
  | bool b => exact hasInk_truth b around
  | int n => exact hasInk_intText n
  | float x => exact hasInk_binary64 x
  | string s => exact hasInk_quoted _
  | bytes content => exact hasInk_cons (c := 'b') (by decide) _
  | date d => exact hasInk_dateMember d
  | moment m => exact hasInk_momentMember m
  | list items => exact hasInk_cons (c := '[') (by decide) _
  | fixedList items =>
    match items with
    | [] | [_] | _ :: _ :: _ => exact hasInk_cons (c := '(') (by decide) _
  | map entries => exact hasInk_cons (c := '\x7b') (by decide) _
  | listedMap entries =>
    cases entries with
    | nil =>
      change HasInk "ordereddict()".toList
      exact hasInk_of_mem 'o' (by decide) (by decide)
    | cons entry rest =>
      unfold Value.memberText
      exact (hasInk_cons (c := ']') (by decide) _).append _
  | set members =>
    cases members with
    | nil =>
      change HasInk "set()".toList
      exact hasInk_of_mem 's' (by decide) (by decide)
    | cons member rest => exact hasInk_cons (c := '\x7b') (by decide) _
termination_by sizeOf v

/-! ## 2. What is left of a version -/

/-- A value that is shown blank is a blank text. -/
theorem Value.allBlank_shown_iff (v : Value) :
    allBlank v.shown.toList = true ↔ ∃ s, v = .string s ∧ allBlank s.toList = true := by
  have hink {t : List Char} (h : HasInk t) : ¬ allBlank (String.ofList t).toList = true := by
    rw [String.toList_ofList, allBlank, List.all_eq_true]
    obtain ⟨c, hmem, hc⟩ := h
    intro hall
    exact Bool.false_ne_true (hc.symm.trans (hall c hmem))
  cases v with
  | string s => simp [Value.shown]
  | date d =>
    refine iff_of_false (hink ?_) nofun
    exact (hasInk_cons (c := '-') (by decide) _).append _
  | moment m =>
    refine iff_of_false (hink ?_) nofun
    unfold Moment.text
    exact hasInk_of_mem ':' (by simp) (by decide)
  | _ => exact iff_of_false (hink (hasInk_memberText [] _)) nofun

/-- The version that a release is given is a text of blank characters. -/
def Value.HasBlankVersion (entry : Value) : Prop :=
  ∃ fields s, entry.entries? = some fields ∧
    Value.field? "version" fields = some (.string s) ∧ allBlank s.toList = true

/-- The entries of release notes, one for each release. -/
def Value.releaseEntries (v : Value) : List Value :=
  (noteField "releases" (v.entries?.getD [])).items?.getD []

section

variable {usual : Binaries} {fields : List (Value × Value)} {r : Release} {index : Nat}
  {entries : List Value} {releases : List Release} {v : Value}

theorem strip_strip (s : String) : strip (strip s) = strip s := by
  rw [strip, strip, String.toList_ofList, trim_trim]

theorem Release.IsFrom.strip_version (h : r.IsFrom usual fields) : strip r.version = r.version := by
  obtain ⟨v, text, -, -, -, hversion⟩ := h.version
  rw [hversion, strip_strip]

theorem Release.IsFrom.version_eq_empty_iff (h : r.IsFrom usual fields) :
    r.version = "" ↔ ∃ s, Value.field? "version" fields = some (.string s) ∧
      allBlank s.toList = true := by
  obtain ⟨v, text, hv, -, ⟨-, hshown⟩, hversion⟩ := h.version
  rw [hversion, strip_eq_empty_iff, ← hshown, Value.allBlank_shown_iff, hv]
  simp only [Option.some.injEq]

/-! ## 3. Loaded versions -/

/-- The release says what the fields of the entry say, with some programs for usual ones. -/
def Release.IsOf (r : Release) (entry : Value) : Prop :=
  ∃ usual fields, entry.entries? = some fields ∧ r.IsFrom usual fields

theorem releasesFrom_ok (h : releasesFrom usual index entries = .ok releases) :
    List.Forall₂ (fun entry (r : Release) => r.IsOf entry) entries releases := by
  rw [releasesFrom_eq_mapM, mapM_ok_iff] at h
  rw [← List.zipIdx_map_fst index entries, List.forall₂_map_left_iff]
  exact h.imp fun entry r hr => ⟨usual, Release.ofValue_ok_iff.mp hr⟩

theorem releasesOfEntries_ok (h : releasesOfEntries fields = .ok releases) :
    List.Forall₂ (fun entry (r : Release) => r.IsOf entry)
      ((noteField "releases" fields).items?.getD []) releases := by
  rw [releasesOfEntries_eq, bind_ok_iff] at h
  obtain ⟨usual, -, h⟩ := h
  split at h
  · rename_i hvoid
    cases h
    cases hitems : (noteField "releases" fields).items? with
    | none => exact .nil
    | some items =>
      rw [isVoid_of_items? hitems, List.isEmpty_iff] at hvoid
      rw [hvoid]
      exact .nil
  · split at h
    · rename_i items hitems
      rw [hitems]
      exact releasesFrom_ok h
    · cases h

/-- There is one loaded release for each entry, in their order. -/
theorem releasesOf_ok (h : releasesOf v = .ok releases) :
    List.Forall₂ (fun entry (r : Release) => r.IsOf entry) v.releaseEntries releases := by
  rw [Value.releaseEntries]
  rw [releasesOf] at h
  cases hfields : v.entries? with
  | none =>
    rw [hfields] at h
    split at h
    · exact releasesOfEntries_ok h
    · cases h
  | some fields =>
    rw [hfields, isVoid_of_entries? hfields] at h
    refine releasesOfEntries_ok (Eq.trans ?_ h)
    cases fields <;> rfl

theorem Release.IsOf.isStripped_iff {entry : Value} (h : r.IsOf entry) :
    IsStripped r.version ↔ ¬ entry.HasBlankVersion := by
  obtain ⟨usual, fields, hfields, hr⟩ := h
  rw [IsStripped, and_iff_left hr.strip_version, ne_eq, hr.version_eq_empty_iff,
    Value.HasBlankVersion, hfields]
  simp

theorem forall₂_isOf_isStripped_iff
    (h : List.Forall₂ (fun entry (r : Release) => r.IsOf entry) entries releases) :
    (∀ r ∈ releases, IsStripped r.version) ↔ ∀ entry ∈ entries, ¬ entry.HasBlankVersion := by
  induction h with
  | nil => simp
  | cons hr _ ih => rw [List.forall_mem_cons, List.forall_mem_cons, hr.isStripped_iff, ih]

theorem forall₂_isOf_strip_version
    (h : List.Forall₂ (fun entry (r : Release) => r.IsOf entry) entries releases) :
    ∀ r ∈ releases, strip r.version = r.version := by
  induction h with
  | nil => simp
  | cons hr _ ih =>
    obtain ⟨usual, fields, -, hr⟩ := hr
    exact List.forall_mem_cons.mpr ⟨hr.strip_version, ih⟩

/-- The versions of loaded releases are stripped. They are all usable just if no entry gives a text
of blank characters for its version. -/
theorem loadReleases_isStripped_iff {fs : FileSystem} {p : Path}
    (h : loadReleases fs p = .ok releases) :
    ∃ v, fs.readData p = .ok v ∧ (∀ r ∈ releases, strip r.version = r.version) ∧
      ((∀ r ∈ releases, IsStripped r.version) ↔
        ∀ entry ∈ v.releaseEntries, ¬ entry.HasBlankVersion) := by
  rw [loadReleases, FileSystem.loadData_ok_iff] at h
  obtain ⟨v, hread, hv⟩ := h
  have hentries := releasesOf_ok hv
  exact ⟨v, hread, forall₂_isOf_strip_version hentries, forall₂_isOf_isStripped_iff hentries⟩

end

/-- Notes of two releases. The version of the second one is a tab between quotes. -/
def tabVersion : FileSystem :=
  smallSystem "releases:\n- version: ' v2 '\n- version: '\t'\n"

theorem loadReleases_isStripped_iff_tabVersion :
    loadReleases tabVersion (.ofText "config/site.yaml") =
        .ok [⟨"v2", [], [], []⟩, ⟨"", [], [], []⟩] ∧
      ∃ v entry, tabVersion.readData (.ofText "config/site.yaml") = .ok v ∧
        entry ∈ v.releaseEntries ∧ entry.HasBlankVersion := by
  have hload : loadReleases tabVersion (.ofText "config/site.yaml") =
      .ok [⟨"v2", [], [], []⟩, ⟨"", [], [], []⟩] := by decide +kernel
  obtain ⟨v, hread, -, hiff⟩ := loadReleases_isStripped_iff hload
  have hnot : ¬ ∀ entry ∈ v.releaseEntries, ¬ entry.HasBlankVersion :=
    fun hall => (hiff.mpr hall _ (List.mem_of_getElem? (i := 1) rfl)).1 rfl
  obtain ⟨entry, hmem, hblank⟩ : ∃ entry ∈ v.releaseEntries, entry.HasBlankVersion := by
    simpa using hnot
  exact ⟨hload, v, entry, hread, hmem, hblank⟩

/-- A version of one space is accepted, and nothing is left of it. -/
theorem not_isStripped_blankVersion :
    ∃ releases, loadReleases (smallSystem "releases:\n- version: ' '\n")
        (.ofText "config/site.yaml") = .ok releases ∧
      ¬ ∀ r ∈ releases, IsStripped r.version := by
  refine ⟨[⟨"", [], [], []⟩], by decide +kernel, fun hall => ?_⟩
  exact (hall _ List.mem_cons_self).1 rfl

end StaticSite
