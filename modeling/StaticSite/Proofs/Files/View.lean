/-
StaticSite.Proofs.Files.View — file systems compared by what is at each location.

`get?` is the view of a file system. Two relations say how one file system
looks beside another:

* `Extends a b`: whatever is in `a` is in `b` just so. Creating directories
  gives an extension.
* `AgreesOff S a b`: the directories are the same, and so is everything at
  the locations outside `S`. Writing files at locations of `S` gives such a
  pair.

Following a path looks at directories only. So both relations keep the
location that a path leads to (`resolve_ok`), and with it what is read
there.
-/
import StaticSite.Files.Stylesheet

namespace StaticSite.FileSystem

/-! ## 1. One entry put or taken out -/

theorem lookup_putEntry_self (l : Location) (e : Entry) (entries : List (Location × Entry)) :
    lookup l (putEntry l e entries) = some e := by
  induction entries with
  | nil => simp [putEntry, lookup]
  | cons entry rest ih =>
    obtain ⟨k, old⟩ := entry
    by_cases hk : k = l
    · simp [putEntry, lookup, hk]
    · simp [putEntry, lookup, hk, ih]

theorem lookup_putEntry_of_ne {k l : Location} (h : k ≠ l) (e : Entry)
    (entries : List (Location × Entry)) :
    lookup k (putEntry l e entries) = lookup k entries := by
  induction entries with
  | nil => simp [putEntry, lookup, h.symm]
  | cons entry rest ih =>
    obtain ⟨m, old⟩ := entry
    by_cases hm : m = l
    · subst hm
      simp [putEntry, lookup, h.symm]
    · by_cases hk : m = k
      · subst hk
        simp [putEntry, lookup, hm]
      · simp [putEntry, lookup, hm, hk, ih]

/-- Is there a directory without an entry of its own: one on the way to where paths start from,
or the one that is there no more? -/
def stands (fs : FileSystem) (l : Location) : Bool :=
  l.isPrefixOf fs.standing || (fs.isAdrift && l == nowhere)

theorem get?_of_stands (fs : FileSystem) {l : Location} (h : fs.stands l = true) :
    fs.get? l = some .directory :=
  if_pos h

theorem get?_of_not_stands (fs : FileSystem) {l : Location} (h : ¬ fs.stands l = true) :
    fs.get? l = lookup l fs.entries :=
  if_neg h

theorem get?_put_of_ne (fs : FileSystem) {k l : Location} (h : k ≠ l) (e : Entry) :
    (fs.put l e).get? k = fs.get? k := by
  by_cases hc : fs.stands k = true
  · rw [get?_of_stands fs hc, get?_of_stands (fs.put l e) hc]
  · rw [get?_of_not_stands fs hc, get?_of_not_stands (fs.put l e) hc]
    exact lookup_putEntry_of_ne h e fs.entries

/-- What is put at a location is seen there, unless a directory stands there that has no
entry of its own. -/
theorem get?_put_self {fs : FileSystem} {l : Location} (h : fs.get? l ≠ some .directory)
    (e : Entry) : (fs.put l e).get? l = some e := by
  have hc : ¬ fs.stands l = true := fun hc => h (get?_of_stands fs hc)
  rw [get?_of_not_stands (fs.put l e) hc]
  exact lookup_putEntry_self l e fs.entries

theorem get?_put_directory (fs : FileSystem) (l : Location) :
    (fs.put l .directory).get? l = some .directory := by
  by_cases hc : fs.stands l = true
  · exact get?_of_stands (fs.put l .directory) hc
  · rw [get?_of_not_stands (fs.put l .directory) hc]
    exact lookup_putEntry_self l .directory fs.entries

theorem lookup_eq_none {l : Location} {entries : List (Location × Entry)}
    (h : lookup l entries = none) : ∀ entry ∈ entries, entry.1 ≠ l := by
  induction entries with
  | nil => simp
  | cons entry rest ih =>
    obtain ⟨k, old⟩ := entry
    by_cases hk : k = l
    · simp [lookup, hk] at h
    · simp only [lookup, hk, if_false] at h
      simp only [List.mem_cons, forall_eq_or_imp]
      exact ⟨hk, ih h⟩

theorem lookup_of_get?_eq_none {fs : FileSystem} {l : Location} (h : fs.get? l = none) :
    lookup l fs.entries = none := by
  rw [get?] at h
  split at h
  · cases h
  · exact h

theorem putEntry_of_lookup_eq_none {l : Location} {e : Entry}
    {entries : List (Location × Entry)} (h : lookup l entries = none) :
    putEntry l e entries = entries ++ [(l, e)] := by
  induction entries with
  | nil => rfl
  | cons entry rest ih =>
    obtain ⟨k, old⟩ := entry
    by_cases hk : k = l
    · simp [lookup, hk] at h
    · simp only [lookup, hk, if_false] at h
      simp [putEntry, hk, ih h]

theorem putEntry_putEntry (l : Location) (d e : Entry) (entries : List (Location × Entry)) :
    putEntry l e (putEntry l d entries) = putEntry l e entries := by
  induction entries with
  | nil => simp [putEntry]
  | cons entry rest ih =>
    obtain ⟨k, old⟩ := entry
    by_cases hk : k = l
    · simp [putEntry, hk]
    · simp [putEntry, hk, ih]

/-- The last entry put at a location is the one that counts. -/
theorem put_put (fs : FileSystem) (l : Location) (d e : Entry) :
    (fs.put l d).put l e = fs.put l e := by
  simp only [put, putEntry_putEntry]

/-- A file put where nothing was, and taken out again, leaves no trace. -/
theorem unlink_put {fs : FileSystem} {l : Location} (h : fs.get? l = none) (e : Entry) :
    (fs.put l e).unlink l = fs := by
  have hnone := lookup_of_get?_eq_none h
  have hkeep : fs.entries.filter (fun entry => entry.1 != l) = fs.entries := by
    rw [List.filter_eq_self]
    intro entry hentry
    simpa using lookup_eq_none hnone entry hentry
  have hentries : (fs.put l e).entries = fs.entries ++ [(l, e)] :=
    putEntry_of_lookup_eq_none hnone
  simp only [unlink, hentries, List.filter_append, hkeep]
  simp [put]

/-! ## 2. Following a path looks at directories only -/

/-- One name followed: it needs a directory to start from, and leads up or down. -/
theorem walk_cons_ok_iff {fs : FileSystem} {l l' : Location} {name : String}
    {rest : List String} :
    fs.walk l (name :: rest) = .ok l' ↔ fs.get? l = some .directory ∧
      ((name = ".." ∧ fs.walk (fs.above l) rest = .ok l') ∨
        (name ≠ ".." ∧ l ≠ nowhere ∧ name.utf8ByteSize ≤ maxName ∧
          fs.walk (l ++ [name]) rest = .ok l')) := by
  rw [walk]
  cases fs.get? l with
  | none => simp
  | some entry =>
    cases entry with
    | file bytes rights => simp
    | directory =>
      by_cases hname : name = ".."
      · simp [hname]
      · by_cases hnowhere : l = nowhere
        · simp [hname, hnowhere]
        · by_cases hsize : maxName < name.utf8ByteSize
          · simp [hname, hnowhere, hsize, Nat.not_le.mpr hsize]
          · simp [hname, hnowhere, hsize, Nat.not_lt.mp hsize]

theorem walk_append_ok_iff {fs : FileSystem} {l l' : Location} {xs ys : List String} :
    fs.walk l (xs ++ ys) = .ok l' ↔ ∃ m, fs.walk l xs = .ok m ∧ fs.walk m ys = .ok l' := by
  induction xs generalizing l with
  | nil => simp [walk]
  | cons name rest ih =>
    rw [List.cons_append, walk_cons_ok_iff]
    simp only [walk_cons_ok_iff, ih]
    constructor
    · rintro ⟨hl, ⟨hname, m, hm, hw⟩ | ⟨hname, hn, hs, m, hm, hw⟩⟩
      · exact ⟨m, ⟨hl, Or.inl ⟨hname, hm⟩⟩, hw⟩
      · exact ⟨m, ⟨hl, Or.inr ⟨hname, hn, hs, hm⟩⟩, hw⟩
    · rintro ⟨m, ⟨hl, ⟨hname, hm⟩ | ⟨hname, hn, hs, hm⟩⟩, hw⟩
      · exact ⟨hl, Or.inl ⟨hname, m, hm, hw⟩⟩
      · exact ⟨hl, Or.inr ⟨hname, hn, hs, m, hm, hw⟩⟩

theorem resolve_ok_iff {fs : FileSystem} {p : Path} {l : Location} :
    fs.resolve p = .ok l ↔ p.isValid = true ∧ p.text.utf8ByteSize ≤ maxPath ∧
      fs.walk (fs.startOf p) p.parts = .ok l := by
  rw [resolve]
  cases hvalid : p.isValid with
  | false => simp
  | true =>
    by_cases hsize : maxPath < p.text.utf8ByteSize
    · simp [hsize, Nat.not_le.mpr hsize]
    · simp [hsize, Nat.not_lt.mp hsize]

theorem isDirectory_iff {fs : FileSystem} {p : Path} :
    fs.isDirectory p = true ↔ ∃ l, fs.resolve p = .ok l ∧ fs.get? l = some .directory := by
  rw [isDirectory, stat]
  cases fs.resolve p with
  | error e => simp
  | ok l =>
    cases hl : fs.get? l with
    | none => simp [hl]
    | some entry => cases entry <;> simp [hl]

/-- The same place to start from, and all directories of the first in the second. -/
structure KeepsDirectories (a b : FileSystem) : Prop where
  here : b.here = a.here
  standing : b.standing = a.standing
  directory : ∀ l, a.get? l = some .directory → b.get? l = some .directory

namespace KeepsDirectories

variable {a b : FileSystem}

theorem startOf (h : KeepsDirectories a b) (p : Path) : b.startOf p = a.startOf p := by
  rw [FileSystem.startOf, FileSystem.startOf, isAdrift, isAdrift, h.here, h.standing]

theorem walk_ok (h : KeepsDirectories a b) {names : List String} {l l' : Location}
    (hw : a.walk l names = .ok l') : b.walk l names = .ok l' := by
  induction names generalizing l with
  | nil => exact hw
  | cons name rest ih =>
    have habove : b.above l = a.above l := by rw [above, above, h.here]
    rw [walk_cons_ok_iff] at hw ⊢
    obtain ⟨hl, ⟨hname, hrest⟩ | ⟨hname, hn, hs, hrest⟩⟩ := hw
    · exact ⟨h.directory l hl, Or.inl ⟨hname, habove ▸ ih hrest⟩⟩
    · exact ⟨h.directory l hl, Or.inr ⟨hname, hn, hs, ih hrest⟩⟩

theorem resolve_ok (h : KeepsDirectories a b) {p : Path} {l : Location}
    (hp : a.resolve p = .ok l) : b.resolve p = .ok l := by
  rw [resolve_ok_iff] at hp ⊢
  obtain ⟨hvalid, hsize, hw⟩ := hp
  exact ⟨hvalid, hsize, h.startOf p ▸ h.walk_ok hw⟩

theorem isDirectory (h : KeepsDirectories a b) {p : Path} (hp : a.isDirectory p = true) :
    b.isDirectory p = true := by
  rw [isDirectory_iff] at hp ⊢
  obtain ⟨l, hl, hdir⟩ := hp
  exact ⟨l, h.resolve_ok hl, h.directory l hdir⟩

end KeepsDirectories

/-! ## 3. More entries, and other entries at some locations -/

/-- The same place to start from, and the same at every location. -/
structure SameView (a b : FileSystem) : Prop where
  here : b.here = a.here
  standing : b.standing = a.standing
  entry : ∀ l, b.get? l = a.get? l

theorem SameView.refl (a : FileSystem) : SameView a a :=
  ⟨rfl, rfl, fun _ => rfl⟩

/-- The same place to start from, and every entry of the first just so in the second. -/
structure Extends (a b : FileSystem) : Prop where
  here : b.here = a.here
  standing : b.standing = a.standing
  entry : ∀ l e, a.get? l = some e → b.get? l = some e

/-- The same place to start from, the same directories, and the same entries outside some
locations. -/
structure AgreesOff (S : Location → Prop) (a b : FileSystem) : Prop where
  here : b.here = a.here
  standing : b.standing = a.standing
  directory : ∀ l, a.get? l = some .directory ↔ b.get? l = some .directory
  entry : ∀ l, ¬ S l → b.get? l = a.get? l

theorem Extends.refl (a : FileSystem) : Extends a a :=
  ⟨rfl, rfl, fun _ _ h => h⟩

theorem Extends.trans {a b c : FileSystem} (hab : Extends a b) (hbc : Extends b c) :
    Extends a c :=
  ⟨hbc.here.trans hab.here, hbc.standing.trans hab.standing,
    fun l e h => hbc.entry l e (hab.entry l e h)⟩

theorem Extends.keepsDirectories {a b : FileSystem} (h : Extends a b) : KeepsDirectories a b :=
  ⟨h.here, h.standing, fun l => h.entry l .directory⟩

/-- A directory put where nothing was. -/
theorem extends_put_directory {fs : FileSystem} {l : Location} (h : fs.get? l = none) :
    Extends fs (fs.put l .directory) := by
  refine ⟨rfl, rfl, fun k e hk => ?_⟩
  have hne : k ≠ l := by
    rintro rfl
    rw [h] at hk
    cases hk
  rw [get?_put_of_ne fs hne, hk]

namespace AgreesOff

variable {S : Location → Prop} {a b c : FileSystem}

theorem refl (S : Location → Prop) (a : FileSystem) : AgreesOff S a a :=
  ⟨rfl, rfl, fun _ => Iff.rfl, fun _ _ => rfl⟩

theorem symm (h : AgreesOff S a b) : AgreesOff S b a :=
  ⟨h.here.symm, h.standing.symm, fun l => (h.directory l).symm,
    fun l hl => (h.entry l hl).symm⟩

theorem trans (hab : AgreesOff S a b) (hbc : AgreesOff S b c) : AgreesOff S a c :=
  ⟨hbc.here.trans hab.here, hbc.standing.trans hab.standing,
    fun l => (hab.directory l).trans (hbc.directory l),
    fun l hl => (hbc.entry l hl).trans (hab.entry l hl)⟩

theorem keepsDirectories (h : AgreesOff S a b) : KeepsDirectories a b :=
  ⟨h.here, h.standing, fun l hl => (h.directory l).mp hl⟩

theorem resolve_ok_iff (h : AgreesOff S a b) {p : Path} {l : Location} :
    a.resolve p = .ok l ↔ b.resolve p = .ok l :=
  ⟨h.keepsDirectories.resolve_ok, h.symm.keepsDirectories.resolve_ok⟩

/-- A file put where no directory is. -/
theorem put_file {fs : FileSystem} {l : Location} (h : fs.get? l ≠ some .directory)
    (hS : S l) (bytes : ByteArray) : AgreesOff S fs (fs.put l (.file bytes)) := by
  refine ⟨rfl, rfl, fun k => ?_, fun k hk => ?_⟩
  · by_cases hkl : k = l
    · subst hkl
      rw [get?_put_self h]
      simp [h]
    · rw [get?_put_of_ne fs hkl]
  · have hkl : k ≠ l := by
      rintro rfl
      exact hk hS
    exact get?_put_of_ne fs hkl _

/-- The same file put in both. -/
theorem put_both (h : AgreesOff S a b) {l : Location} (hl : a.get? l ≠ some .directory)
    (bytes : ByteArray) : AgreesOff S (a.put l (.file bytes)) (b.put l (.file bytes)) := by
  have hl' : b.get? l ≠ some .directory := fun hdir => hl ((h.directory l).mpr hdir)
  refine ⟨h.here, h.standing, fun k => ?_, fun k hk => ?_⟩
  · by_cases hkl : k = l
    · rw [hkl, get?_put_self hl, get?_put_self hl']
    · rw [get?_put_of_ne a hkl, get?_put_of_ne b hkl]
      exact h.directory k
  · by_cases hkl : k = l
    · rw [hkl, get?_put_self hl, get?_put_self hl']
    · rw [get?_put_of_ne a hkl, get?_put_of_ne b hkl]
      exact h.entry k hk

end AgreesOff

end StaticSite.FileSystem
