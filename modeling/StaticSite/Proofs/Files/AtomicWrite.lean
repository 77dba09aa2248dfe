/-
StaticSite.Proofs.Files.AtomicWrite — a file is written all or nothing.

An atomic write puts a temporary file beside the file, fills it and moves it
into place. There is always a free name for it (`freePlace?_isSome`), as
more names are tried than can be in use. `writeAtomic_of_place` and
`writeAtomic_of_no_place` say what is left of the steps: the file system
with the file, or the file system as it was. The temporary file is in
neither.

Whether a path names a place to write to (`writePlace?`) depends on the
directories alone, so file systems that agree on them agree on that
(`AgreesOff.writePlace?_eq`).
-/
import Mathlib.Data.List.Nodup
import Mathlib.Data.List.Perm.Subperm
import StaticSite.Proofs.Files.Directories
import StaticSite.Proofs.Files.Reading

namespace StaticSite.FileSystem

/-! ## 1. A free name -/

theorem ofDigitChars_paddedText (width n : Nat) :
    Nat.ofDigitChars 10 (Number.paddedText width n) 0 = n := by
  rw [Number.paddedText, Number.natText, Nat.ofDigitChars_append,
    Nat.ofDigitChars_replicate_zero, Nat.mul_zero, Nat.ofDigitChars_ten_toDigits]

theorem temporaryName_injective (name : String) {m n : Nat}
    (h : temporaryName name m = temporaryName name n) : m = n := by
  have hchars := congrArg String.toList h
  simp only [temporaryName, String.toList_append, String.toList_ofList] at hchars
  have hdigits : Number.paddedText 8 m = Number.paddedText 8 n := by simpa using hchars
  rw [← ofDigitChars_paddedText 8 m, hdigits, ofDigitChars_paddedText]

theorem temporaryName_ne_empty (name : String) (n : Nat) : temporaryName name n ≠ "" := by
  intro h
  have hchars := congrArg String.toList h
  simp [temporaryName] at hchars

theorem mem_of_lookup {l : Location} {entries : List (Location × Entry)}
    (h : lookup l entries ≠ none) : ∃ entry ∈ entries, entry.1 = l := by
  induction entries with
  | nil => exact absurd rfl h
  | cons entry rest ih =>
    obtain ⟨k, old⟩ := entry
    by_cases hk : k = l
    · exact ⟨(k, old), List.mem_cons_self, hk⟩
    · rw [lookup, if_neg hk] at h
      obtain ⟨found, hfound, hkey⟩ := ih h
      exact ⟨found, List.mem_cons_of_mem _ hfound, hkey⟩

/-- A name in use in a directory is the name of an entry, or leads to where paths start from. -/
theorem mem_of_occupied {fs : FileSystem} {directory : Location} {name : String}
    (hname : name ≠ "") (h : fs.get? (directory ++ [name]) ≠ none) :
    directory ++ [name] ∈
      fs.standing.take (directory.length + 1) :: fs.entries.map Prod.fst := by
  by_cases hstands : fs.stands (directory ++ [name]) = true
  · rw [stands, Bool.or_eq_true, Bool.and_eq_true] at hstands
    rcases hstands with hprefix | ⟨-, hnowhere⟩
    · have htake := List.prefix_iff_eq_take.mp (List.isPrefixOf_iff_prefix.mp hprefix)
      rw [List.length_append, List.length_singleton] at htake
      exact List.mem_cons.mpr (Or.inl htake)
    · have hlast := congrArg List.getLast? (beq_iff_eq.mp hnowhere)
      rw [List.getLast?_concat, nowhere, List.getLast?_singleton,
        Option.some.injEq] at hlast
      exact absurd hlast hname
  · rw [get?_of_not_stands fs hstands] at h
    obtain ⟨entry, hentry, hkey⟩ := mem_of_lookup h
    exact List.mem_cons_of_mem _ (List.mem_map.mpr ⟨entry, hentry, hkey⟩)

/-- Some place for the temporary file is free. -/
theorem freePlace?_isSome (fs : FileSystem) (directory : Location) (name : String) :
    ∃ l, fs.freePlace? directory name = some l ∧ fs.get? l = none := by
  cases hfree : fs.freePlace? directory name with
  | some l =>
    have hl := List.find?_some hfree
    exact ⟨l, rfl, Option.isNone_iff_eq_none.mp hl⟩
  | none =>
    -- Otherwise all places tried would be in use, and there are more of them than that.
    exfalso
    have hnodup : ((List.range (fs.entries.length + 2)).map fun n =>
        directory ++ [temporaryName name n]).Nodup := by
      refine List.Nodup.map (fun m n h => ?_) List.nodup_range
      have hname := List.append_cancel_left h
      rw [List.cons.injEq] at hname
      exact temporaryName_injective name hname.1
    have hsubset : ((List.range (fs.entries.length + 2)).map fun n =>
        directory ++ [temporaryName name n]) ⊆
          fs.standing.take (directory.length + 1) :: fs.entries.map Prod.fst := by
      intro l hl
      have hused := List.find?_eq_none.mp hfree l hl
      obtain ⟨n, -, rfl⟩ := List.mem_map.mp hl
      refine mem_of_occupied (temporaryName_ne_empty name n) ?_
      simpa using hused
    have hlength := (List.subperm_of_subset hnodup hsubset).length_le
    simp only [List.length_map, List.length_range, List.length_cons] at hlength
    omega

/-! ## 2. The place of a file -/

theorem checkDirectory_ne_invalidPath (fs : FileSystem) (l : Location) :
    fs.checkDirectory l ≠ .error .invalidPath := by
  rw [checkDirectory]
  split <;> simp

theorem checkDirectory_ok_iff {fs : FileSystem} {l : Location} :
    fs.checkDirectory l = .ok () ↔ fs.get? l = some .directory := by
  rw [checkDirectory]
  cases fs.get? l with
  | none => simp
  | some entry => cases entry <;> simp

theorem temporaryDirectory_ok_iff {fs : FileSystem} {p : Path} {d : Location} :
    fs.temporaryDirectory p = .ok d ↔
      (p.isValid = true ∧ fs.startOf p ≠ nowhere ∧
        p.name.utf8ByteSize + temporaryNameExtra ≤ maxName ∧
        (Path.mk .absolute (lexicalWalk (fs.startOf p) p.parent.parts)).text.utf8ByteSize + 1 +
          (p.name.utf8ByteSize + temporaryNameExtra) ≤ maxPath) ∧
        fs.walk [] (lexicalWalk (fs.startOf p) p.parent.parts) = .ok d ∧
        fs.get? d = some .directory := by
  simp only [temporaryDirectory, beq_iff_eq]
  cases hvalid : p.isValid with
  | false => simp
  | true =>
    by_cases hstart : fs.startOf p = nowhere
    · simp [hstart]
    by_cases hpath : maxPath < (Path.mk .absolute
        (lexicalWalk (fs.startOf p) p.parent.parts)).text.utf8ByteSize + 1 +
          (p.name.utf8ByteSize + temporaryNameExtra)
    · simp [hstart, hpath, Nat.not_le.mpr hpath]
    simp only [Bool.not_true, Bool.false_eq_true, if_false, hstart, hpath, Nat.not_lt.mp hpath,
      ne_eq, not_false_eq_true, true_and, and_true]
    cases fs.walk [] (lexicalWalk (fs.startOf p) p.parent.parts) with
    | error e => simp
    | ok l =>
      simp only [Except.ok.injEq]
      cases hl : fs.checkDirectory l with
      | error e =>
        have hnot : fs.get? l ≠ some .directory := by
          rw [ne_eq, ← checkDirectory_ok_iff, hl]
          simp
        simp only [reduceCtorEq, false_iff]
        rintro ⟨-, rfl, hdir⟩
        exact hnot hdir
      | ok _ =>
        have hdir := checkDirectory_ok_iff.mp hl
        by_cases hname : maxName < p.name.utf8ByteSize + temporaryNameExtra
        · simp [hname, Nat.not_le.mpr hname]
        · simp only [hname, Nat.not_lt.mp hname, if_false, Except.ok.injEq, true_and]
          exact ⟨fun h => ⟨h, h ▸ hdir⟩, fun h => h.1⟩

theorem destination_ok_iff {fs : FileSystem} {p : Path} {l : Location} :
    fs.destination p = .ok l ↔ p.text.utf8ByteSize ≤ maxPath ∧
      ∃ d, fs.resolve p.parent = .ok d ∧ fs.get? d = some .directory ∧
        p.name ≠ "" ∧ p.name ≠ ".." ∧ d ≠ nowhere ∧
        fs.get? (d ++ [p.name]) ≠ some .directory ∧ l = d ++ [p.name] := by
  rw [destination]
  by_cases hsize : maxPath < p.text.utf8ByteSize
  · simp [hsize, Nat.not_le.mpr hsize]
  cases fs.resolve p.parent with
  | error e => simp [hsize]
  | ok d =>
    simp only [hsize, if_false, Nat.not_lt.mp hsize, true_and, Except.ok.injEq, exists_eq_left',
      ← checkDirectory_ok_iff]
    cases fs.checkDirectory d with
    | error e => simp
    | ok _ =>
      by_cases hempty : p.name = ""
      · simp [hempty]
      by_cases hdots : p.name = ".."
      · simp [hdots]
      by_cases hnowhere : d = nowhere
      · simp [hempty, hdots, hnowhere]
      simp only [beq_iff_eq, Bool.or_eq_true, hempty, hdots, or_self, if_false, hnowhere, ne_eq,
        not_false_eq_true, true_and]
      split
      · rename_i htarget
        simp [htarget]
      · rename_i htarget
        simp only [Except.ok.injEq]
        exact ⟨fun h => ⟨htarget, h.symm⟩, fun h => h.2.symm⟩

/-- The place that an atomic write of a path goes to, if there is one. -/
def writePlace? (fs : FileSystem) (p : Path) : Option Location :=
  match fs.temporaryDirectory p, fs.destination p with
  | .ok _, .ok l => some l
  | _, _ => none

theorem writePlace?_eq_some_iff {fs : FileSystem} {p : Path} {l : Location} :
    fs.writePlace? p = some l ↔
      (∃ d, fs.temporaryDirectory p = .ok d) ∧ fs.destination p = .ok l := by
  rw [writePlace?]
  cases fs.temporaryDirectory p <;> cases fs.destination p <;> simp

theorem get?_writePlace {fs : FileSystem} {p : Path} {l : Location}
    (h : fs.writePlace? p = some l) : fs.get? l ≠ some .directory := by
  obtain ⟨-, hdest⟩ := writePlace?_eq_some_iff.mp h
  obtain ⟨-, d, -, -, -, -, -, htarget, rfl⟩ := destination_ok_iff.mp hdest
  exact htarget

/-- The place is the one that the path leads to. -/
theorem resolve_writePlace {fs : FileSystem} {p : Path} {l : Location}
    (h : fs.writePlace? p = some l) : fs.resolve p = .ok l := by
  obtain ⟨⟨t, htemp⟩, hdest⟩ := writePlace?_eq_some_iff.mp h
  obtain ⟨⟨hvalid, -, hsize, -⟩, -, -⟩ := temporaryDirectory_ok_iff.mp htemp
  obtain ⟨htext, d, hd, hdir, hempty, hdots, hnowhere, -, rfl⟩ := destination_ok_iff.mp hdest
  have hlast : p.parts.getLast? = some p.name := by
    cases hlast : p.parts.getLast? with
    | none => exact absurd (by rw [Path.name, hlast]; rfl) hempty
    | some name => rw [Path.name, hlast]; rfl
  have hwalk : fs.walk (fs.startOf p) p.parent.parts = .ok d := (resolve_ok_iff.mp hd).2.2
  refine resolve_ok_iff.mpr ⟨hvalid, htext, ?_⟩
  rw [← List.dropLast_append_getLast? p.name hlast, walk_append_ok_iff]
  refine ⟨d, hwalk, walk_cons_ok_iff.mpr ⟨hdir, Or.inr ⟨hdots, hnowhere, ?_, rfl⟩⟩⟩
  rw [temporaryNameExtra] at hsize
  omega

/-! ## 3. Places depend on directories alone -/

theorem KeepsDirectories.temporaryDirectory_ok {a b : FileSystem} (h : KeepsDirectories a b)
    {p : Path} {d : Location} (hd : a.temporaryDirectory p = .ok d) :
    b.temporaryDirectory p = .ok d := by
  rw [temporaryDirectory_ok_iff] at hd ⊢
  rw [h.startOf]
  exact ⟨hd.1, h.walk_ok hd.2.1, h.directory d hd.2.2⟩

theorem AgreesOff.destination_ok {S : Location → Prop} {a b : FileSystem}
    (h : AgreesOff S a b) {p : Path} {l : Location} (hl : a.destination p = .ok l) :
    b.destination p = .ok l := by
  rw [destination_ok_iff] at hl ⊢
  obtain ⟨hsize, d, hd, hdir, hempty, hdots, hnowhere, htarget, hl⟩ := hl
  refine ⟨hsize, d, h.resolve_ok_iff.mp hd, (h.directory d).mp hdir, hempty, hdots, hnowhere,
    fun htarget' => htarget ((h.directory _).mpr htarget'), hl⟩

theorem AgreesOff.writePlace?_eq {S : Location → Prop} {a b : FileSystem}
    (h : AgreesOff S a b) (p : Path) : b.writePlace? p = a.writePlace? p := by
  apply Option.ext
  intro l
  rw [writePlace?_eq_some_iff, writePlace?_eq_some_iff]
  constructor
  · rintro ⟨⟨d, hd⟩, hl⟩
    exact ⟨⟨d, h.symm.keepsDirectories.temporaryDirectory_ok hd⟩, h.symm.destination_ok hl⟩
  · rintro ⟨⟨d, hd⟩, hl⟩
    exact ⟨⟨d, h.keepsDirectories.temporaryDirectory_ok hd⟩, h.destination_ok hl⟩

/-! ## 4. The write as a whole -/

/-- The temporary file, filled: the file system agrees with the old one off its place. -/
theorem createTemporary_of_directory {fs : FileSystem} {p : Path} {d : Location}
    (h : fs.temporaryDirectory p = .ok d) :
    ∃ l, fs.get? l = none ∧
      fs.createTemporary p = .ok (fs.put l (.file .empty .ownerOnly), l) := by
  obtain ⟨l, hfree, hnone⟩ := freePlace?_isSome fs d p.name
  exact ⟨l, hnone, by simp only [createTemporary, h, hfree]⟩

theorem createTemporary_of_error {fs : FileSystem} {p : Path} {e : FileError}
    (h : fs.temporaryDirectory p = .error e) : fs.createTemporary p = .error e := by
  simp only [createTemporary, h]

theorem setBytes_put {fs : FileSystem} {l : Location} (h : fs.get? l ≠ some .directory)
    (old bytes : ByteArray) (rights : Rights) :
    (fs.put l (.file old rights)).setBytes l bytes = fs.put l (.file bytes rights) := by
  simp only [setBytes, get?_put_self h, put_put]

theorem setRights_put {fs : FileSystem} {l : Location} (h : fs.get? l ≠ some .directory)
    (bytes : ByteArray) (old rights : Rights) :
    (fs.put l (.file bytes old)).setRights l rights = fs.put l (.file bytes rights) := by
  simp only [setRights, get?_put_self h, put_put]

/-- Once the temporary file is there, filled and open to everyone, it only has to be moved. -/
theorem writeAtomic_of_directory {fs : FileSystem} {p : Path} {d : Location}
    (h : fs.temporaryDirectory p = .ok d) :
    ∃ temporary, fs.get? temporary = none ∧ ∀ bytes, fs.writeAtomic p bytes =
      match (fs.put temporary (.file bytes)).rename temporary p with
      | .error e => (fs, some e)
      | .ok renamed => (renamed, none) := by
  obtain ⟨temporary, hnone, hcreate⟩ := createTemporary_of_directory h
  have hfree : fs.get? temporary ≠ some .directory := by simp [hnone]
  refine ⟨temporary, hnone, fun bytes => ?_⟩
  cases hrename : (fs.put temporary (.file bytes)).rename temporary p <;>
    simp only [writeAtomic, hcreate, setBytes_put hfree, setRights_put hfree, unlink_put hnone,
      hrename]

/-- A write to a place leaves the file system with the file at that place. -/
theorem writeAtomic_of_place {fs : FileSystem} {p : Path} {l : Location}
    (h : fs.writePlace? p = some l) (bytes : ByteArray) :
    fs.writeAtomic p bytes = (fs.put l (.file bytes), none) := by
  obtain ⟨⟨d, hd⟩, hl⟩ := writePlace?_eq_some_iff.mp h
  obtain ⟨temporary, hnone, hwrite⟩ := writeAtomic_of_directory hd
  have hfree : fs.get? temporary ≠ some .directory := by simp [hnone]
  have hagrees : AgreesOff (Eq temporary) fs (fs.put temporary (.file bytes)) :=
    .put_file hfree rfl bytes
  rw [hwrite]
  simp only [rename, hagrees.destination_ok hl, get?_put_self hfree, unlink_put hnone]

theorem temporaryDirectory_invalidPath_iff (fs : FileSystem) (p : Path) :
    fs.temporaryDirectory p = .error .invalidPath ↔ p.isValid = false := by
  simp only [temporaryDirectory, beq_iff_eq]
  cases hvalid : p.isValid with
  | false => simp
  | true =>
    simp only [Bool.not_true, Bool.false_eq_true, if_false]
    split
    · simp
    · split
      · simp
      · split
        · rename_i e hwalk
          have hne := walk_ne_invalidPath fs [] (lexicalWalk (fs.startOf p) p.parent.parts)
          rw [hwalk] at hne
          simpa using hne
        · split
          · rename_i e hcheck
            have hne : e ≠ .invalidPath := by
              rintro rfl
              exact checkDirectory_ne_invalidPath fs _ hcheck
            simpa using hne
          · split <;> simp

theorem destination_ne_invalidPath (fs : FileSystem) {p : Path} (hvalid : p.isValid = true) :
    fs.destination p ≠ .error .invalidPath := by
  intro h
  rw [destination] at h
  split at h
  · simp at h
  · split at h
    · rename_i e hparent
      rw [Except.error.injEq] at h
      rw [h, resolve_invalidPath_iff, isValid_parent hvalid] at hparent
      cases hparent
    · split at h
      · rename_i e hcheck
        rw [Except.error.injEq] at h
        rw [h] at hcheck
        exact checkDirectory_ne_invalidPath fs _ hcheck
      · split at h
        · simp at h
        · split at h
          · simp at h
          · split at h <;> simp at h

/-- A write to no place leaves the file system as it was. The path is at fault only if there can
be no such file. -/
theorem writeAtomic_of_no_place {fs : FileSystem} {p : Path} (h : fs.writePlace? p = none)
    (bytes : ByteArray) :
    ∃ e, fs.writeAtomic p bytes = (fs, some e) ∧ (e = .invalidPath ↔ p.isValid = false) := by
  cases htemp : fs.temporaryDirectory p with
  | error e =>
    refine ⟨e, ?_, ?_⟩
    · rw [writeAtomic, createTemporary_of_error htemp]
    · rw [← temporaryDirectory_invalidPath_iff fs p, htemp, Except.error.injEq]
  | ok d =>
    obtain ⟨temporary, hnone, hwrite⟩ := writeAtomic_of_directory htemp
    have hfree : fs.get? temporary ≠ some .directory := by simp [hnone]
    have hagrees : AgreesOff (Eq temporary) fs (fs.put temporary (.file bytes)) :=
      .put_file hfree rfl bytes
    have hvalid : p.isValid = true := (temporaryDirectory_ok_iff.mp htemp).1.1
    cases hdest : (fs.put temporary (.file bytes)).destination p with
    | ok l =>
      have hplace : fs.writePlace? p = some l :=
        writePlace?_eq_some_iff.mpr ⟨⟨d, htemp⟩, hagrees.symm.destination_ok hdest⟩
      rw [hplace] at h
      cases h
    | error e =>
      refine ⟨e, ?_, ?_⟩
      · simp only [hwrite, rename, hdest]
      · have hne := destination_ne_invalidPath (fs.put temporary (.file bytes)) hvalid
        rw [hdest] at hne
        simpa [hvalid] using hne

end StaticSite.FileSystem
