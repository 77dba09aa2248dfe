/-
StaticSite.Proofs.Files.Reading — what is read, and from which location.

A path is read by following it to a location and taking the bytes there
(`readBytes_ok_iff`). So a file is read just so in every extension, and in
every file system that agrees off locations other than its own. Texts and
values are made of the bytes alone (`readText_ok_mono`, `loadData_ok_mono`).

When a text cannot be read, agreement does not keep the cause: a name that
led nowhere may be the name of a file now. It keeps whether the cause is
one that a run reports on (`readText_agrees`).
-/
import StaticSite.Generate.Document
import StaticSite.Proofs.Files.View

namespace StaticSite

namespace FileSystem

/-! ## 1. Bytes -/

theorem readBytes_ok_iff {fs : FileSystem} {p : Path} {bytes : ByteArray} :
    fs.readBytes p = .ok bytes ↔
      ∃ l rights, fs.resolve p = .ok l ∧ fs.get? l = some (.file bytes rights) := by
  rw [readBytes, stat]
  cases fs.resolve p with
  | error e => simp
  | ok l =>
    cases hl : fs.get? l with
    | none => simp [hl]
    | some entry => cases entry <;> simp [hl]

theorem Extends.readBytes_ok {a b : FileSystem} (h : Extends a b) {p : Path}
    {bytes : ByteArray} (hp : a.readBytes p = .ok bytes) : b.readBytes p = .ok bytes := by
  rw [readBytes_ok_iff] at hp ⊢
  obtain ⟨l, rights, hl, hbytes⟩ := hp
  exact ⟨l, rights, h.keepsDirectories.resolve_ok hl, h.entry l _ hbytes⟩

/-- The path does not lead to any of the locations. -/
def LeadsOff (fs : FileSystem) (S : Location → Prop) (p : Path) : Prop :=
  ∀ l, fs.resolve p = .ok l → ¬ S l

theorem AgreesOff.leadsOff {S : Location → Prop} {a b : FileSystem} (h : AgreesOff S a b)
    {p : Path} (hp : a.LeadsOff S p) : b.LeadsOff S p :=
  fun l hl => hp l (h.resolve_ok_iff.mpr hl)

theorem AgreesOff.readBytes_ok {S : Location → Prop} {a b : FileSystem} (h : AgreesOff S a b)
    {p : Path} (hp : a.LeadsOff S p) {bytes : ByteArray} (hread : a.readBytes p = .ok bytes) :
    b.readBytes p = .ok bytes := by
  rw [readBytes_ok_iff] at hread ⊢
  obtain ⟨l, rights, hl, hbytes⟩ := hread
  exact ⟨l, rights, h.resolve_ok_iff.mp hl, (h.entry l (hp l hl)).trans hbytes⟩

theorem walk_ne_invalidPath (fs : FileSystem) (l : Location) (names : List String) :
    fs.walk l names ≠ .error .invalidPath := by
  induction names generalizing l with
  | nil => simp [walk]
  | cons name rest ih =>
    rw [walk]
    cases fs.get? l with
    | none => simp
    | some entry =>
      cases entry with
      | file bytes rights => simp
      | directory =>
        simp only
        split
        · exact ih _
        · split
          · simp
          · split
            · simp
            · exact ih _

/-- Only the path itself can be at fault so that no file could have it. -/
theorem resolve_invalidPath_iff (fs : FileSystem) (p : Path) :
    fs.resolve p = .error .invalidPath ↔ p.isValid = false := by
  rw [resolve]
  cases hvalid : p.isValid with
  | false => simp
  | true =>
    by_cases hsize : maxPath < p.text.utf8ByteSize
    · simp [hsize]
    · simp [hsize, walk_ne_invalidPath]

theorem readBytes_invalidPath_iff (fs : FileSystem) (p : Path) :
    fs.readBytes p = .error .invalidPath ↔ p.isValid = false := by
  rw [← resolve_invalidPath_iff fs p, readBytes, stat]
  cases fs.resolve p with
  | error e => simp
  | ok l =>
    cases hl : fs.get? l with
    | none => simp [hl]
    | some entry => cases entry <;> simp [hl]

end FileSystem

/-! ## 2. Texts -/

theorem Text.decodeUtf8_eq_some_iff {bytes : ByteArray} {raw : String} :
    Text.decodeUtf8 bytes = some raw ↔ Text.encodeUtf8 raw = bytes := by
  rw [Text.decodeUtf8, Text.encodeUtf8, String.fromUTF8?]
  split
  · rw [Option.some.injEq]
    constructor <;> rintro rfl <;> rfl
  · rename_i hinvalid
    simp only [reduceCtorEq, false_iff]
    rintro rfl
    exact hinvalid raw.isValidUTF8

/-- A text is what well-formed bytes spell, each line end a line feed. -/
theorem textOf?_eq_some_iff {bytes : ByteArray} {s : String} :
    textOf? bytes = some s ↔
      ∃ raw, Text.decodeUtf8 bytes = some raw ∧
        s = String.ofList (Text.unifyLineEnds raw.toList) := by
  rw [textOf?]
  cases Text.decodeUtf8 bytes <;> simp [eq_comm]

namespace FileSystem

theorem readText_ok_iff {fs : FileSystem} {p : Path} {s : String} :
    fs.readText p = .ok s ↔ ∃ bytes, fs.readBytes p = .ok bytes ∧ textOf? bytes = some s := by
  rw [readText]
  cases fs.readBytes p with
  | error e => simp
  | ok bytes => cases htext : textOf? bytes <;> simp [htext]

theorem readText_ok_mono {a b : FileSystem} {p : Path}
    (hread : ∀ bytes, a.readBytes p = .ok bytes → b.readBytes p = .ok bytes) {s : String}
    (h : a.readText p = .ok s) : b.readText p = .ok s := by
  rw [readText_ok_iff] at h ⊢
  obtain ⟨bytes, hbytes, htext⟩ := h
  exact ⟨bytes, hread bytes hbytes, htext⟩

end FileSystem

theorem AccessError.resource?_of_isSome (p : Path) (cause : FileError) :
    (AccessError.of p cause).resource?.isSome = true ↔ cause ≠ .invalidPath := by
  cases cause <;> simp [AccessError.of, AccessError.resource?]

namespace FileSystem

/-- Reading a text that lies off the changed locations gives the same text, or fails both times,
and a run reports on both failures or on none. -/
theorem AgreesOff.readText_agrees {S : Location → Prop} {a b : FileSystem}
    (h : AgreesOff S a b) {p : Path} (hp : a.LeadsOff S p) :
    (∃ s, a.readText p = .ok s ∧ b.readText p = .ok s) ∨
      ∃ e e', a.readText p = .error e ∧ b.readText p = .error e' ∧
        ((PageError.stylesheet e).resource?.isSome = true ↔
          (PageError.stylesheet e').resource?.isSome = true) := by
  cases ha : a.readBytes p with
  | ok bytes =>
    have hb := h.readBytes_ok hp ha
    cases htext : textOf? bytes with
    | some s =>
      exact Or.inl ⟨s, readText_ok_iff.mpr ⟨bytes, ha, htext⟩,
        readText_ok_iff.mpr ⟨bytes, hb, htext⟩⟩
    | none =>
      refine Or.inr ⟨.notText, .notText, ?_, ?_, Iff.rfl⟩
      · simp [readText, ha, htext]
      · simp [readText, hb, htext]
  | error e =>
    cases hb : b.readBytes p with
    | ok bytes =>
      rw [h.symm.readBytes_ok (h.leadsOff hp) hb] at ha
      cases ha
    | error e' =>
      refine Or.inr ⟨.access (.of p e), .access (.of p e'), ?_, ?_, ?_⟩
      · simp [readText, ha]
      · simp [readText, hb]
      · have hcause : e = .invalidPath ↔ e' = .invalidPath := by
          have he := readBytes_invalidPath_iff a p
          have he' := readBytes_invalidPath_iff b p
          rw [ha, Except.error.injEq] at he
          rw [hb, Except.error.injEq] at he'
          exact he.trans he'.symm
        simp only [PageError.resource?, AccessError.resource?_of_isSome, ne_eq, hcause]

end FileSystem

namespace Stylesheet

theorem text_unread_of_error {fs : FileSystem} {p : Path} {e : ReadError}
    (h : fs.readText p = .error e) : (unread p).text fs = (unread p, .error e) := by
  simp only [text, unread, h]

theorem text_unread_of_ok {fs : FileSystem} {p : Path} {s : String}
    (h : fs.readText p = .ok s) : (unread p).text fs = (⟨p, some s⟩, .ok s) := by
  simp only [text, unread, h]

end Stylesheet

namespace FileSystem

/-! ## 3. Values -/

theorem readData_ok_iff {fs : FileSystem} {p : Path} {v : Value} :
    fs.readData p = .ok v ↔ ∃ bytes text, fs.readBytes p = .ok bytes ∧
      textOf? bytes = some text ∧ Yaml.load text.toList = .ok v := by
  rw [readData]
  cases hstat : fs.stat p with
  | error e =>
    have hread : fs.readBytes p = .error e := by rw [readBytes, hstat]
    cases e <;> simp [hread]
  | ok entry =>
    cases fs.readBytes p with
    | error e => simp
    | ok bytes =>
      cases htext : textOf? bytes with
      | none => simp [htext]
      | some text => cases hload : Yaml.load text.toList <;> simp [htext, hload]

/-- A file with a text gives the value of that text, or its fault. -/
theorem readData_of_text {fs : FileSystem} {p : Path} {bytes : ByteArray} {text : String}
    (hbytes : fs.readBytes p = .ok bytes) (htext : textOf? bytes = some text) :
    fs.readData p = (Yaml.load text.toList).mapError .document := by
  rw [readData]
  cases hstat : fs.stat p with
  | error e =>
    rw [readBytes, hstat] at hbytes
    cases hbytes
  | ok entry =>
    simp only [hbytes, htext]
    cases Yaml.load text.toList <;> rfl

theorem loadData_ok_iff {ε α : Type} {fs : FileSystem} {ofValue : Value → Except ε α}
    {p : Path} {x : α} :
    fs.loadData ofValue p = .ok x ↔ ∃ v, fs.readData p = .ok v ∧ ofValue v = .ok x := by
  rw [loadData]
  cases fs.readData p with
  | error e => simp
  | ok v => cases hvalue : ofValue v <;> simp [hvalue]

theorem loadData_of_readData {ε α : Type} {fs : FileSystem} {p : Path} {v : Value}
    (h : fs.readData p = .ok v) (ofValue : Value → Except ε α) :
    fs.loadData ofValue p = (ofValue v).mapError .content := by
  rw [loadData, h]
  cases hv : ofValue v with
  | error e =>
    simp only [hv]
    rfl
  | ok a =>
    simp only [hv]
    rfl

theorem loadData_ok_mono {ε α : Type} {ofValue : Value → Except ε α} {a b : FileSystem}
    {p : Path} (hread : ∀ bytes, a.readBytes p = .ok bytes → b.readBytes p = .ok bytes) {x : α}
    (h : a.loadData ofValue p = .ok x) : b.loadData ofValue p = .ok x := by
  rw [loadData_ok_iff] at h ⊢
  obtain ⟨v, hv, hx⟩ := h
  rw [readData_ok_iff] at hv
  obtain ⟨bytes, text, hbytes, htext, hload⟩ := hv
  exact ⟨v, readData_ok_iff.mpr ⟨bytes, text, hread bytes hbytes, htext, hload⟩, hx⟩

end FileSystem

end StaticSite
