/-
StaticSite.Proofs.Markup.ReadTag — the reader in a tag.

What the reader does in a tag depends on where the tag may end or go on
with an attribute. There are three such places, after its name, after the
bare name of an attribute and after a value. `Place.tagSoFar?` is what has
been read of the tag in each of them, and reading attributes leads from one
of them to another (`ReadsAttributes`), however their values are escaped. No
character of an escaped value can end it too early, and decoding takes the
escaping back (`Encodes`).
-/
import StaticSite.Proofs.Markup.NormalForm
import StaticSite.Proofs.Markup.References

namespace StaticSite.Markup

/-! ## 1. Characters of names -/

theorem isNameChar_ne {c d : Char} (h : isNameChar c = true) (hd : isNameChar d = false) :
    c ≠ d := by
  rintro rfl
  rw [h] at hd
  cases hd

theorem isName_attributeName {name : String} (h : isName name = true) :
    isName (attributeName name) = true := by
  rw [attributeName]
  split
  · decide
  · exact h

/-- A name starts with a character of names, and goes on with such. -/
theorem isName_cons {s : String} (h : isName s = true) :
    ∃ c rest, s.toList = c :: rest ∧ isNameChar c = true ∧ ∀ d ∈ rest, isNameChar d = true := by
  simp only [isName, Bool.and_eq_true, Bool.not_eq_true', List.all_eq_true] at h
  obtain ⟨hne, hall⟩ := h
  cases hs : s.toList with
  | nil => simp [String.toList_eq_nil_iff.mp hs] at hne
  | cons c rest =>
    rw [hs] at hall
    exact ⟨c, rest, rfl, hall c List.mem_cons_self,
      fun d hd => hall d (List.mem_cons_of_mem c hd)⟩

/-! ## 2. Runs of the reader -/

namespace Reader

theorem run_append (r : Reader) (a b : List Char) :
    r.run (a ++ b) = (r.run a).bind fun next => next.run b := by
  induction a generalizing r with
  | nil => rfl
  | cons c rest ih =>
    rw [List.cons_append, run, run]
    cases r.step c with
    | none => rfl
    | some next => exact ih next

theorem run_cons {r next : Reader} {c : Char} (h : r.step c = some next) (s : List Char) :
    r.run (c :: s) = next.run s := by
  rw [run, h]

theorem run_trans {r next last : Reader} {a b : List Char} (ha : r.run a = some next)
    (hb : next.run b = some last) : r.run (a ++ b) = some last := by
  rw [run_append, ha]
  exact hb

/-- Characters that are only collected. -/
theorem run_collect (opened : List OpenElement) (done : List Piece)
    (place : List Char → Place) (collects : Char → Bool)
    (hstep : ∀ read c, collects c = true →
      (Reader.mk opened done (place read)).step c = some ⟨opened, done, place (c :: read)⟩)
    {s : List Char} (hs : ∀ c ∈ s, collects c = true) (read : List Char) :
    (Reader.mk opened done (place read)).run s =
      some ⟨opened, done, place (s.reverse ++ read)⟩ := by
  induction s generalizing read with
  | nil => rfl
  | cons c rest ih =>
    rw [run_cons (hstep read c (hs c List.mem_cons_self)),
      ih fun d hd => hs d (List.mem_cons_of_mem c hd)]
    simp

/-- A text that starts no tag is only collected. -/
theorem run_text (opened : List OpenElement) (done : List Piece) {s : List Char}
    (hs : ∀ c ∈ s, c ≠ '<') (read : List Char) :
    (Reader.mk opened done (.text read)).run s =
      some ⟨opened, done, .text (s.reverse ++ read)⟩ := by
  refine run_collect opened done .text (· != '<') (fun read c hc => ?_) (fun c hc => ?_) read
  · have hne : c ≠ '<' := by simpa using hc
    simp [step, goTo, hne]
  · simpa using hs c hc

end Reader

/-! ## 3. Inside a tag -/

/-- The tag as it has been read, where it may end or go on with an attribute. -/
def Place.tagSoFar? : Place → Option (String × List ReadAttribute)
  | .tagName read => some (readText read, [])
  | .attributeName tag attributes read => some (tag, (readText read, none) :: attributes)
  | .afterValue tag attributes => some (tag, attributes)
  | _ => none

namespace Reader

variable {opened : List OpenElement} {done : List Piece} {place : Place} {tag : String}
  {attributes : List ReadAttribute}

theorem step_of_tagSoFar (h : place.tagSoFar? = some (tag, attributes)) {c : Char}
    (hc : isNameChar c = false) (hequals : c ≠ '=') :
    (Reader.mk opened done place).step c =
      (Reader.mk opened done place).endPart tag attributes c := by
  cases place with
  | tagName read =>
    simp only [Place.tagSoFar?, Option.some.injEq, Prod.mk.injEq] at h
    obtain ⟨rfl, rfl⟩ := h
    simp [step, hc]
  | attributeName t as read =>
    simp only [Place.tagSoFar?, Option.some.injEq, Prod.mk.injEq] at h
    obtain ⟨rfl, rfl⟩ := h
    simp [step, hc, hequals]
  | afterValue t as =>
    simp only [Place.tagSoFar?, Option.some.injEq, Prod.mk.injEq] at h
    obtain ⟨rfl, rfl⟩ := h
    simp [step]
  | _ => cases h

theorem step_separator (h : place.tagSoFar? = some (tag, attributes)) :
    (Reader.mk opened done place).step ' ' = some ⟨opened, done, .between tag attributes⟩ := by
  rw [step_of_tagSoFar h (by decide) (by decide)]
  rfl

theorem step_end (h : place.tagSoFar? = some (tag, attributes)) :
    (Reader.mk opened done place).step '>' =
      some ⟨⟨tag, attributes.reverse, done⟩ :: opened, [], .text []⟩ := by
  rw [step_of_tagSoFar h (by decide) (by decide)]
  rfl

variable (opened done)

/-- The name of an attribute, after a space. -/
theorem run_attributeName (h : place.tagSoFar? = some (tag, attributes)) {name : String}
    (hname : isName name = true) :
    (Reader.mk opened done place).run (' ' :: name.toList) =
      some ⟨opened, done, .attributeName tag attributes name.toList.reverse⟩ := by
  obtain ⟨c, rest, hchars, hc, hrest⟩ := isName_cons hname
  have hslash : c ≠ '/' := isNameChar_ne hc (by decide)
  have hspace : isSeparator c = false := by
    simp only [isNameChar, Bool.not_eq_true', Bool.or_eq_false_iff] at hc
    exact hc.1.1.1.1.1.1
  have hfirst : (Reader.mk opened done (.between tag attributes)).step c =
      some ⟨opened, done, .attributeName tag attributes [c]⟩ := by
    simp [step, goTo, hspace, hslash, hc]
  have hcollect := run_collect opened done (.attributeName tag attributes) isNameChar
    (fun read d hd => by simp [step, goTo, hd]) hrest [c]
  rw [run_cons (step_separator h), hchars, run_cons hfirst, hcollect, List.reverse_cons]

theorem readText_reverse (s : String) : readText s.toList.reverse = s := by
  rw [readText, List.reverse_reverse, String.ofList_toList]

/-- An attribute with a value, after a space. -/
theorem run_valued (h : place.tagSoFar? = some (tag, attributes)) {name written value : String}
    (hname : isName name = true) (hvalue : Encodes written value) :
    (Reader.mk opened done place).run (" " ++ name ++ "=\"" ++ written ++ "\"").toList =
      some ⟨opened, done, .afterValue tag ((name, some value) :: attributes)⟩ := by
  have hchars : (" " ++ name ++ "=\"" ++ written ++ "\"").toList =
      (' ' :: name.toList) ++ ('=' :: '"' :: (written.toList ++ ['"'])) := by
    simp [String.toList_append]
  have hequals : (Reader.mk opened done (.attributeName tag attributes name.toList.reverse)).step
      '=' = some ⟨opened, done, .equals tag attributes name⟩ := by
    have hnot : isNameChar '=' = false := by decide
    simp [step, goTo, hnot, readText_reverse]
  have hopen : (Reader.mk opened done (.equals tag attributes name)).step '"' =
      some ⟨opened, done, .value tag attributes name []⟩ := rfl
  have hcollect := run_collect opened done (.value tag attributes name) (· != '"')
    (fun read c hc => by
      have hne : c ≠ '"' := by simpa using hc
      simp [step, goTo, hne])
    (s := written.toList)
    (fun c hc => by simpa using (hvalue.plain c hc).2) []
  have hclose : (Reader.mk opened done
      (.value tag attributes name (written.toList.reverse ++ []))).step '"' =
        some ⟨opened, done, .afterValue tag ((name, some value) :: attributes)⟩ := by
    have hdecoded : String.ofList (decodeReferences written.toList) = value := hvalue.decoded
    simp only [step, goTo, beq_self_eq_true, if_true, List.append_nil, List.reverse_reverse,
      hdecoded]
  rw [hchars]
  refine run_trans (run_attributeName opened done h hname) ?_
  rw [run_cons hequals, run_cons hopen]
  refine run_trans hcollect ?_
  rw [run_cons hclose, run]

end Reader

/-! ## 4. Attributes -/

/-- Reading the text, where a tag may end or go on, leads to such a place again, with the
attributes read. -/
def ReadsAttributes (written : String) (kept : List ReadAttribute) : Prop :=
  ∀ (opened : List OpenElement) (done : List Piece) (place : Place) (tag : String)
      (attributes : List ReadAttribute), place.tagSoFar? = some (tag, attributes) →
    ∃ next : Place, next.tagSoFar? = some (tag, kept.reverse ++ attributes) ∧
      (Reader.mk opened done place).run written.toList = some ⟨opened, done, next⟩

theorem readsAttributes_empty : ReadsAttributes "" [] :=
  fun _ _ place _ _ h => ⟨place, h, rfl⟩

theorem ReadsAttributes.append {a b : String} {first second : List ReadAttribute}
    (ha : ReadsAttributes a first) (hb : ReadsAttributes b second) :
    ReadsAttributes (a ++ b) (first ++ second) := by
  intro opened done place tag attributes h
  obtain ⟨middle, hmiddle, hfirst⟩ := ha opened done place tag attributes h
  obtain ⟨next, hnext, hsecond⟩ := hb opened done middle tag _ hmiddle
  refine ⟨next, ?_, ?_⟩
  · rw [hnext, List.reverse_append, List.append_assoc]
  · rw [String.toList_append]
    exact Reader.run_trans hfirst hsecond

theorem readsAttributes_bare {name : String} (hname : isName name = true) :
    ReadsAttributes (" " ++ name) [(name, none)] := by
  intro opened done place tag attributes h
  have hchars : (" " ++ name).toList = ' ' :: name.toList := by
    simp [String.toList_append]
  refine ⟨.attributeName tag attributes name.toList.reverse, ?_, ?_⟩
  · simp [Place.tagSoFar?, Reader.readText_reverse]
  · rw [hchars]
    exact Reader.run_attributeName opened done h hname

theorem readsAttributes_valued {name written value : String} (hname : isName name = true)
    (hvalue : Encodes written value) :
    ReadsAttributes (" " ++ name ++ "=\"" ++ written ++ "\"") [(name, some value)] :=
  fun opened done _ _ _ h => ⟨_, rfl, Reader.run_valued opened done h hname hvalue⟩

/-- An attribute as it is written, if it is. -/
theorem readsAttributes_renderAttribute {name written : String} {value : AttrValue}
    (hname : isName name = true) (h : renderAttribute name value = .ok written) :
    ReadsAttributes written (keptAttribute name value) := by
  have hwritten := isName_attributeName hname
  cases value with
  | absent =>
    cases h
    exact readsAttributes_empty
  | switch on =>
    cases on <;> cases h
    · exact readsAttributes_empty
    · exact readsAttributes_bare hwritten
  | text s =>
    cases h
    exact readsAttributes_valued hwritten (encodes_escape s)
  | int n =>
    rw [renderAttribute] at h
    split at h <;> cases h
    exact readsAttributes_valued hwritten (encodes_escape (String.ofList (Number.intText n)))

/-- Attributes as they are written. -/
theorem readsAttributes_renderAttributes {entries : Attributes} {written : String}
    (hnames : ∀ entry ∈ entries, isName entry.1 = true)
    (h : renderAttributes entries = .ok written) :
    ReadsAttributes written (keptAttributes entries) := by
  induction entries generalizing written with
  | nil =>
    cases h
    exact readsAttributes_empty
  | cons entry rest ih =>
    obtain ⟨name, value⟩ := entry
    obtain ⟨hname, hrest⟩ := List.forall_mem_cons.mp hnames
    obtain ⟨first, others, hfirst, hothers, rfl⟩ := renderAttributes_cons_eq_ok_iff.mp h
    exact (readsAttributes_renderAttribute hname hfirst).append (ih hrest hothers)

/-- Attributes with texts as they are written. -/
theorem readsAttributes_renderTexts {entries : List (String × String)}
    (h : ∀ entry ∈ entries, isName entry.1 = true) :
    ReadsAttributes (renderTexts entries) (textAttributes entries) := by
  induction entries with
  | nil => exact readsAttributes_empty
  | cons entry rest ih =>
    obtain ⟨name, value⟩ := entry
    obtain ⟨hentry, hrest⟩ := List.forall_mem_cons.mp h
    have hfirst := readsAttributes_valued (isName_attributeName hentry) (encodes_escape value)
    exact hfirst.append (ih hrest)

namespace Reader

variable {opened : List OpenElement} {done : List Piece} {tag written : String}
  {attributes kept : List ReadAttribute}

variable (opened done)

/-! ## 5. Whole tags -/

/-- A tag up to where it may end: the text before it ends, its name and its attributes are
read. -/
theorem run_tag (read : List Char) (htag : isName tag = true) (h : ReadsAttributes written kept) :
    ∃ next : Place, next.tagSoFar? = some (tag, kept.reverse) ∧
      (Reader.mk opened done (.text read)).run ("<" ++ tag ++ written).toList =
        some ⟨opened, endText done read, next⟩ := by
  obtain ⟨c, rest, hchars, hc, hrest⟩ := isName_cons htag
  have hslash : c ≠ '/' := isNameChar_ne hc (by decide)
  have hstart : (Reader.mk opened done (.text read)).step '<' =
      some ⟨opened, endText done read, .start⟩ := rfl
  have hfirst : (Reader.mk opened (endText done read) .start).step c =
      some ⟨opened, endText done read, .tagName [c]⟩ := by
    simp [step, goTo, hslash, hc]
  have hcollect := run_collect opened (endText done read) .tagName isNameChar
    (fun read d hd => by simp [step, goTo, hd]) hrest [c]
  have hname : readText (rest.reverse ++ [c]) = tag := by
    rw [← List.reverse_cons, ← hchars, readText_reverse]
  have hplace : (Place.tagName (rest.reverse ++ [c])).tagSoFar? = some (tag, []) := by
    simp only [Place.tagSoFar?, hname]
  obtain ⟨next, hnext, hattributes⟩ := h opened (endText done read) _ _ _ hplace
  refine ⟨next, by simpa using hnext, ?_⟩
  rw [String.toList_append, String.toList_append, hchars]
  refine run_trans ?_ hattributes
  rw [show "<".toList ++ c :: rest = '<' :: c :: rest from rfl, run_cons hstart, run_cons hfirst,
    hcollect]

/-- A tag that opens an element. -/
theorem run_opening (read : List Char) (htag : isName tag = true)
    (h : ReadsAttributes written kept) :
    (Reader.mk opened done (.text read)).run ("<" ++ tag ++ written ++ ">").toList =
      some ⟨⟨tag, kept, endText done read⟩ :: opened, [], .text []⟩ := by
  obtain ⟨next, hnext, hrun⟩ := run_tag opened done read htag h
  rw [String.toList_append]
  refine run_trans hrun ?_
  rw [show ">".toList = ['>'] from rfl, run_cons (step_end hnext), run, List.reverse_reverse]

/-- A tag that closes itself. -/
theorem run_selfClosing (read : List Char) (htag : isName tag = true)
    (h : ReadsAttributes written kept) :
    (Reader.mk opened done (.text read)).run ("<" ++ tag ++ written ++ " />").toList =
      some ⟨opened, .empty tag kept :: endText done read, .text []⟩ := by
  obtain ⟨next, hnext, hrun⟩ := run_tag opened done read htag h
  rw [String.toList_append]
  refine run_trans hrun ?_
  rw [show " />".toList = [' ', '/', '>'] from rfl, run_cons (step_separator hnext)]
  simp [run, step, goTo, isSeparator]

/-- The tag that closes the innermost element. -/
theorem run_closing (before : List Piece) (read : List Char) (htag : isName tag = true) :
    (Reader.mk (⟨tag, attributes, before⟩ :: opened) done (.text read)).run
        ("</" ++ tag ++ ">").toList =
      some ⟨opened, .paired tag attributes (endText done read).reverse :: before, .text []⟩ := by
  obtain ⟨c, rest, hchars, hc, hrest⟩ := isName_cons htag
  have hall : ∀ d ∈ tag.toList, isNameChar d = true := by
    rw [hchars]
    intro d hd
    rcases List.mem_cons.mp hd with rfl | hd
    · exact hc
    · exact hrest d hd
  have hcollect := run_collect (⟨tag, attributes, before⟩ :: opened) (endText done read) .closing
    isNameChar (fun read d hd => by
      have hne : d ≠ '>' := isNameChar_ne hd (by decide)
      simp [step, goTo, hd, hne]) hall []
  have hclose : (Reader.mk (⟨tag, attributes, before⟩ :: opened) (endText done read)
      (.closing (tag.toList.reverse ++ []))).step '>' =
        some ⟨opened, .paired tag attributes (endText done read).reverse :: before, .text []⟩ := by
    simp [step, close, readText_reverse]
  have htext : ("</" ++ tag ++ ">").toList = ['<', '/'] ++ (tag.toList ++ ['>']) := by
    simp [String.toList_append]
  have hstart : (Reader.mk (⟨tag, attributes, before⟩ :: opened) done (.text read)).run
      ['<', '/'] =
        some ⟨⟨tag, attributes, before⟩ :: opened, endText done read, .closing []⟩ := rfl
  rw [htext]
  refine run_trans hstart (run_trans hcollect ?_)
  rw [run_cons hclose, run]

end Reader

end StaticSite.Markup
