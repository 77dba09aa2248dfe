/-
StaticSite.Proofs.Files.Directories — creating a directory with its ancestors.

Creating directories only adds: what was there stays, and each location that
is new holds a directory that the path or one of its lexical ancestors leads
to (`makeDirectories_adds`). It fails exactly when the path leads to no
directory afterwards (`makeDirectories_none_iff`).

A failure can leave some of the ancestors behind. Trying again from there
changes nothing more and fails again (`makeDirectories_again`): what was
missing below the failure is still missing.
-/
import Mathlib.Data.List.Basic
import StaticSite.Proofs.Files.View

namespace StaticSite

/-- The first path is the second one or a lexical ancestor of it. -/
def Path.IsOnWayTo (q p : Path) : Prop :=
  q.root = p.root ∧ q.parts <+: p.parts

theorem Path.IsOnWayTo.of_parent {q p : Path} (h : q.IsOnWayTo p.parent) : q.IsOnWayTo p :=
  ⟨h.1, h.2.trans (List.dropLast_prefix p.parts)⟩

namespace FileSystem

/-! ## 1. The directory above -/

theorem get?_startOf (fs : FileSystem) (p : Path) :
    fs.get? (fs.startOf p) = some .directory := by
  apply get?_of_stands
  rw [startOf, stands]
  by_cases habs : p.isAbsolute = true
  · simp [habs]
  · by_cases hadrift : fs.isAdrift = true
    · simp [habs, hadrift]
    · have hstanding : fs.standing = fs.here := by simpa [isAdrift] using hadrift
      simp [habs, hadrift, hstanding]

theorem joinWith_dropLast_le (parts : List String) :
    (Text.joinWith "/" parts.dropLast).utf8ByteSize ≤ (Text.joinWith "/" parts).utf8ByteSize := by
  induction parts with
  | nil => simp
  | cons part rest ih =>
    cases rest with
    | nil => simp [Text.joinWith]
    | cons next more =>
      cases more with
      | nil =>
        simp only [List.dropLast, Text.joinWith, String.utf8ByteSize_append]
        omega
      | cons third last =>
        simp only [List.dropLast_cons_cons, Text.joinWith, String.utf8ByteSize_append] at ih ⊢
        omega

theorem parent_text_le {p : Path} (h : p.text.utf8ByteSize ≤ maxPath) :
    p.parent.text.utf8ByteSize ≤ maxPath := by
  obtain ⟨root, parts⟩ := p
  have hparts := joinWith_dropLast_le parts
  rcases parts with _ | ⟨part, rest⟩
  · exact h
  · cases hdrop : (part :: rest).dropLast with
    | nil =>
      cases root <;> simp only [Path.parent, hdrop, Path.text] <;> decide
    | cons first others =>
      rw [hdrop] at hparts
      have htext : (Path.mk root (part :: rest)).text =
          Path.rootText root ++ Text.joinWith "/" (part :: rest) := by cases root <;> rfl
      have hparent : (Path.mk root (part :: rest)).parent.text =
          Path.rootText root ++ Text.joinWith "/" (first :: others) := by
        cases root <;> simp only [Path.parent, hdrop, Path.text]
      rw [htext, String.utf8ByteSize_append] at h
      rw [hparent, String.utf8ByteSize_append]
      omega

theorem isValid_parent {p : Path} (h : p.isValid = true) : p.parent.isValid = true := by
  simp only [Path.isValid, List.all_eq_true] at h ⊢
  exact fun part hpart => h part (List.dropLast_subset p.parts hpart)

/-- A path that leads somewhere by a last name leads through a directory above it. -/
theorem resolve_parent {fs : FileSystem} {p : Path} {l : Location} {name : String}
    (hname : p.parts.getLast? = some name) (h : fs.resolve p = .ok l) :
    ∃ d, fs.resolve p.parent = .ok d ∧ fs.get? d = some .directory := by
  obtain ⟨hvalid, hsize, hwalk⟩ := resolve_ok_iff.mp h
  rw [← List.dropLast_append_getLast? name hname, walk_append_ok_iff] at hwalk
  obtain ⟨d, hd, hlast⟩ := hwalk
  exact ⟨d, resolve_ok_iff.mpr ⟨isValid_parent hvalid, parent_text_le hsize, hd⟩,
    (walk_cons_ok_iff.mp hlast).1⟩

/-- A path to a directory goes through the directory above it. -/
theorem isDirectory_parent {fs : FileSystem} {p : Path} (h : fs.isDirectory p = true) :
    fs.isDirectory p.parent = true := by
  obtain ⟨l, hl, hdir⟩ := isDirectory_iff.mp h
  cases hname : p.parts.getLast? with
  | none =>
    have hparts : p.parts = [] := List.getLast?_eq_none_iff.mp hname
    have hparent : p.parent = p := by
      obtain ⟨root, parts⟩ := p
      subst hparts
      rfl
    rw [hparent]
    exact h
  | some name => exact isDirectory_iff.mpr (resolve_parent hname hl)

/-! ## 2. One directory -/

theorem makeDirectory_ok_iff {fs after : FileSystem} {p : Path} :
    fs.makeDirectory p = .ok after ↔
      ∃ l, fs.resolve p = .ok l ∧ fs.get? l = none ∧ after = fs.put l .directory := by
  rw [makeDirectory]
  cases fs.resolve p with
  | error e => simp
  | ok l =>
    cases hl : fs.get? l with
    | none => simp [hl, eq_comm]
    | some entry => simp [hl]

theorem makeDirectory_of_isDirectory {fs : FileSystem} {p : Path}
    (h : fs.isDirectory p = true) : fs.makeDirectory p = .error .alreadyExists := by
  obtain ⟨l, hl, hdir⟩ := isDirectory_iff.mp h
  rw [makeDirectory, hl]
  simp only [hdir]

theorem isDirectory_of_makeDirectory {fs after : FileSystem} {p : Path}
    (h : fs.makeDirectory p = .ok after) : after.isDirectory p = true := by
  obtain ⟨l, hl, hnone, rfl⟩ := makeDirectory_ok_iff.mp h
  exact isDirectory_iff.mpr ⟨l, (extends_put_directory hnone).keepsDirectories.resolve_ok hl,
    get?_put_directory fs l⟩

/-- A directory can only be created where the one above it is there. -/
theorem isDirectory_parent_of_makeDirectory {fs after : FileSystem} {p : Path}
    (h : fs.makeDirectory p = .ok after) : fs.isDirectory p.parent = true := by
  obtain ⟨l, hl, hnone, -⟩ := makeDirectory_ok_iff.mp h
  cases hname : p.parts.getLast? with
  | none =>
    have hstart : l = fs.startOf p := by
      have hwalk := (resolve_ok_iff.mp hl).2.2
      rw [List.getLast?_eq_none_iff.mp hname, walk, Except.ok.injEq] at hwalk
      exact hwalk.symm
    rw [hstart, get?_startOf] at hnone
    cases hnone
  | some name => exact isDirectory_iff.mpr (resolve_parent hname hl)

/-! ## 3. What is added -/

/-- The second file system has all of the first, and besides only directories on the way to the
path. -/
structure AddsDirectories (p : Path) (a b : FileSystem) : Prop where
  kept : Extends a b
  added : ∀ l, a.get? l = none →
    b.get? l = none ∨
      (b.get? l = some .directory ∧ ∃ q : Path, q.IsOnWayTo p ∧ b.resolve q = .ok l)

namespace AddsDirectories

variable {a b c : FileSystem} {p : Path}

theorem refl (p : Path) (a : FileSystem) : AddsDirectories p a a :=
  ⟨Extends.refl a, fun _ h => Or.inl h⟩

theorem trans (hab : AddsDirectories p a b) (hbc : AddsDirectories p b c) :
    AddsDirectories p a c := by
  refine ⟨hab.kept.trans hbc.kept, fun l hl => ?_⟩
  rcases hab.added l hl with hnone | ⟨hdir, q, hq, hresolve⟩
  · exact hbc.added l hnone
  · exact Or.inr ⟨hbc.kept.entry l _ hdir, q, hq,
      hbc.kept.keepsDirectories.resolve_ok hresolve⟩

theorem of_parent (h : AddsDirectories p.parent a b) : AddsDirectories p a b := by
  refine ⟨h.kept, fun l hl => ?_⟩
  rcases h.added l hl with hnone | ⟨hdir, q, hq, hresolve⟩
  · exact Or.inl hnone
  · exact Or.inr ⟨hdir, q, hq.of_parent, hresolve⟩

theorem of_makeDirectory (h : a.makeDirectory p = .ok b) : AddsDirectories p a b := by
  obtain ⟨l, hl, hnone, rfl⟩ := makeDirectory_ok_iff.mp h
  have hkept := extends_put_directory hnone
  refine ⟨hkept, fun k hk => ?_⟩
  by_cases hkl : k = l
  · subst hkl
    exact Or.inr ⟨get?_put_directory a k, p, ⟨rfl, List.prefix_refl _⟩,
      hkept.keepsDirectories.resolve_ok hl⟩
  · exact Or.inl ((get?_put_of_ne a hkl _).trans hk)

end AddsDirectories

/-! ## 4. A directory with its ancestors -/

theorem makeDirectoriesUpTo_adds (bound : Nat) (fs : FileSystem) (p : Path) :
    AddsDirectories p fs (makeDirectoriesUpTo bound fs p).1 := by
  fun_induction makeDirectoriesUpTo bound fs p with
  | case1 bound fs p after hmade => exact .of_makeDirectory hmade
  | case2 fs p _ => exact .refl p fs
  | case3 fs p _ bound above e habove ih =>
    rw [habove] at ih
    exact ih.of_parent
  | case4 fs p _ bound above habove after hmade ih =>
    rw [habove] at ih
    exact ih.of_parent.trans (.of_makeDirectory hmade)
  | case5 fs p _ bound above habove _ ih =>
    rw [habove] at ih
    exact ih.of_parent
  | case6 fs p _ bound above habove e _ _ _ ih =>
    rw [habove] at ih
    exact ih.of_parent
  | case7 fs p _ bound above habove e _ _ _ ih =>
    rw [habove] at ih
    exact ih.of_parent
  | case8 bound fs p e _ _ _ => exact .refl p fs
  | case9 bound fs p e _ _ _ => exact .refl p fs

theorem not_isDirectory_of_makeDirectory {fs : FileSystem} {p : Path} {e : FileError}
    (h : fs.makeDirectory p = .error e) (he : e ≠ .alreadyExists) :
    ¬ fs.isDirectory p = true := by
  intro hdir
  rw [makeDirectory_of_isDirectory hdir, Except.error.injEq] at h
  exact he h.symm

/-- The directories are created without an error exactly when the path leads to a directory
then. -/
theorem makeDirectoriesUpTo_none_iff (bound : Nat) (fs : FileSystem) (p : Path) :
    (makeDirectoriesUpTo bound fs p).2 = none ↔
      (makeDirectoriesUpTo bound fs p).1.isDirectory p = true := by
  fun_induction makeDirectoriesUpTo bound fs p with
  | case1 bound fs p after hmade => simp [isDirectory_of_makeDirectory hmade]
  | case2 fs p hmissing =>
    simpa using not_isDirectory_of_makeDirectory hmissing (by decide)
  | case3 fs p _ bound above e habove ih =>
    rw [habove] at ih
    have hparent : ¬ above.isDirectory p.parent = true := by simpa using ih
    simpa using fun hdir => hparent (isDirectory_parent hdir)
  | case4 fs p _ bound above habove after hmade ih =>
    simp [isDirectory_of_makeDirectory hmade]
  | case5 fs p _ bound above habove hmissing ih =>
    simpa using not_isDirectory_of_makeDirectory hmissing (by decide)
  | case6 fs p _ bound above habove e _ _ hdir ih => simp [hdir]
  | case7 fs p _ bound above habove e _ _ hdir ih => simpa using hdir
  | case8 bound fs p e _ _ hdir => simp [hdir]
  | case9 bound fs p e _ _ hdir => simpa using hdir

theorem makeDirectoriesUpTo_of_isDirectory (bound : Nat) {fs : FileSystem} {p : Path}
    (h : fs.isDirectory p = true) : makeDirectoriesUpTo bound fs p = (fs, none) := by
  unfold makeDirectoriesUpTo
  simp [makeDirectory_of_isDirectory h, h]

/-- When the path leads to no directory, an error other than a missing one ends the attempt at
once. -/
theorem makeDirectoriesUpTo_of_error (bound : Nat) {fs : FileSystem} {p : Path} {e : FileError}
    (he : e ≠ .notFound) (hdir : ¬ fs.isDirectory p = true)
    (h : fs.makeDirectory p = .error e) : makeDirectoriesUpTo bound fs p = (fs, some e) := by
  unfold makeDirectoriesUpTo
  cases e <;> simp_all

/-- A second attempt after a failed one changes nothing, and fails. -/
theorem makeDirectoriesUpTo_after_failure (bound : Nat) (fs : FileSystem) (p : Path)
    (h : (makeDirectoriesUpTo bound fs p).2 ≠ none) :
    ∃ e, makeDirectoriesUpTo bound (makeDirectoriesUpTo bound fs p).1 p =
      ((makeDirectoriesUpTo bound fs p).1, some e) := by
  fun_induction makeDirectoriesUpTo bound fs p with
  | case1 bound fs p after hmade => simp at h
  | case2 fs p hmissing =>
    refine ⟨.notFound, ?_⟩
    unfold makeDirectoriesUpTo
    simp [hmissing]
  | case3 fs p _ bound above e habove ih =>
    rw [habove] at ih
    obtain ⟨e', hagain⟩ := ih (by simp)
    -- The directory above is still missing, so this one cannot be created either.
    have hparent : ¬ above.isDirectory p.parent = true := by
      have hnone := makeDirectoriesUpTo_none_iff bound fs p.parent
      rw [habove] at hnone
      simpa using hnone
    cases hmake : above.makeDirectory p with
    | ok after => exact absurd (isDirectory_parent_of_makeDirectory hmake) hparent
    | error cause =>
      by_cases hcause : cause = .notFound
      · subst hcause
        refine ⟨e', ?_⟩
        rw [makeDirectoriesUpTo]
        simp only [hmake, hagain]
      · exact ⟨cause, makeDirectoriesUpTo_of_error _ hcause
          (fun hdir => hparent (isDirectory_parent hdir)) hmake⟩
  | case4 fs p _ bound above habove after hmade ih => simp at h
  | case5 fs p _ bound above habove hmissing ih =>
    have hparent : above.isDirectory p.parent = true := by
      have hnone := makeDirectoriesUpTo_none_iff bound fs p.parent
      rw [habove] at hnone
      exact hnone.mp rfl
    refine ⟨.notFound, ?_⟩
    rw [makeDirectoriesUpTo]
    simp only [hmissing, makeDirectoriesUpTo_of_isDirectory bound hparent]
  | case6 fs p _ bound above habove e _ _ hdir ih => simp at h
  | case7 fs p _ bound above habove e he hmake hdir ih =>
    exact ⟨e, makeDirectoriesUpTo_of_error _ he hdir hmake⟩
  | case8 bound fs p e _ _ hdir => simp at h
  | case9 bound fs p e he hmake hdir =>
    exact ⟨e, makeDirectoriesUpTo_of_error _ he hdir hmake⟩

/-! ## 5. The operation -/

/-- Creating a directory adds to the files, and what it adds is on the way to the path. -/
theorem makeDirectories_adds (fs : FileSystem) (p : Path) :
    AddsDirectories p fs (fs.makeDirectories p).1 :=
  makeDirectoriesUpTo_adds p.parts.length fs p

theorem makeDirectories_none_iff (fs : FileSystem) (p : Path) :
    (fs.makeDirectories p).2 = none ↔ (fs.makeDirectories p).1.isDirectory p = true :=
  makeDirectoriesUpTo_none_iff p.parts.length fs p

theorem makeDirectories_of_isDirectory {fs : FileSystem} {p : Path}
    (h : fs.isDirectory p = true) : fs.makeDirectories p = (fs, none) :=
  makeDirectoriesUpTo_of_isDirectory p.parts.length h

/-- Creating a directory a second time changes nothing, and fails just if it did at first. -/
theorem makeDirectories_again (fs : FileSystem) (p : Path) :
    ((fs.makeDirectories p).1.makeDirectories p).1 = (fs.makeDirectories p).1 ∧
      (((fs.makeDirectories p).1.makeDirectories p).2 = none ↔
        (fs.makeDirectories p).2 = none) := by
  by_cases hnone : (fs.makeDirectories p).2 = none
  · have hdir := (makeDirectories_none_iff fs p).mp hnone
    rw [makeDirectories_of_isDirectory hdir]
    simp [hnone]
  · obtain ⟨e, hagain⟩ := makeDirectoriesUpTo_after_failure p.parts.length fs p hnone
    have hpair : (fs.makeDirectories p).1.makeDirectories p =
        ((fs.makeDirectories p).1, some e) := hagain
    rw [hpair]
    simp [hnone]

end FileSystem

end StaticSite
