/-
StaticSite.Proofs.Markup.References — escaped texts and what they stand for.

Elements and the head template escape with a table each. The proofs need
the same of both: what a table writes for a character starts no tag, ends
no value, and is decoded to that character whatever follows
(`IsEscapeTable`). So an escaped text is decoded to the text that was
escaped, and two texts that are escaped alike are the same.
-/
import StaticSite.Proofs.Markup.Reader

namespace StaticSite.Markup

/-- A text with the characters that its references stand for. -/
def decodeText (s : String) : String :=
  String.ofList (decodeReferences s.toList)

/-! ## 1. Tables -/

/-- The characters that markup reserves. -/
def reserved : List Char :=
  ['&', '<', '>', '"', '\'']

/-- What a table of references writes for a character starts no tag, ends no value, and is
decoded to the character. -/
structure IsEscapeTable (table : Char → List Char) : Prop where
  plain : ∀ c, ∀ d ∈ table c, d ≠ '<' ∧ d ≠ '"'
  decoded : ∀ c s, decodeReferences (table c ++ s) = c :: decodeReferences s

/-- A character that starts no reference stands for itself. -/
theorem decodeReferences_cons {c : Char} (h : c ≠ '&') (s : List Char) :
    decodeReferences (c :: s) = c :: decodeReferences s := by
  rw [decodeReferences]
  all_goals
    intro _ hc
    exact absurd hc h

/-- Every reference stands for some character. -/
theorem decodeReferences_isEmpty (s : List Char) : (decodeReferences s).isEmpty = s.isEmpty := by
  unfold decodeReferences
  split <;> rfl

/-- A table that leaves the other characters alone has to be looked at for the reserved ones
only. -/
theorem isEscapeTable_of_reserved {table : Char → List Char}
    (hother : ∀ c, c ∉ reserved → table c = [c])
    (hplain : (reserved.flatMap table).all (fun d => d != '<' && d != '"') = true)
    (hdecoded : ∀ c ∈ reserved, ∀ s, decodeReferences (table c ++ s) = c :: decodeReferences s) :
    IsEscapeTable table := by
  constructor
  · intro c d hd
    by_cases hc : c ∈ reserved
    · have hmem : d ∈ reserved.flatMap table := List.mem_flatMap.mpr ⟨c, hc, hd⟩
      simpa using List.all_eq_true.mp hplain d hmem
    · rw [hother c hc, List.mem_singleton] at hd
      subst hd
      constructor <;> rintro rfl <;> exact hc (by decide)
  · intro c s
    by_cases hc : c ∈ reserved
    · exact hdecoded c hc s
    · have hamp : c ≠ '&' := by
        rintro rfl
        exact hc (by decide)
      rw [hother c hc, List.singleton_append, decodeReferences_cons hamp]

theorem escapeChar_of_not_reserved {c : Char} (hc : c ∉ reserved) : escapeChar c = [c] := by
  simp only [reserved, List.mem_cons, List.not_mem_nil, or_false, not_or] at hc
  simp [escapeChar, hc]

theorem isEscapeTable_escapeChar : IsEscapeTable escapeChar := by
  refine isEscapeTable_of_reserved (fun _ => escapeChar_of_not_reserved) (by decide) ?_
  simp only [reserved, List.forall_mem_cons]
  exact ⟨fun _ => rfl, fun _ => rfl, fun _ => rfl, fun _ => rfl, fun _ => rfl,
    fun _ h => absurd h List.not_mem_nil⟩

theorem escapeHeadChar_of_not_reserved {c : Char} (hc : c ∉ reserved) :
    escapeHeadChar c = [c] := by
  simp only [reserved, List.mem_cons, List.not_mem_nil, or_false, not_or] at hc
  simp [escapeHeadChar, hc]

theorem isEscapeTable_escapeHeadChar : IsEscapeTable escapeHeadChar := by
  refine isEscapeTable_of_reserved (fun _ => escapeHeadChar_of_not_reserved) (by decide) ?_
  simp only [reserved, List.forall_mem_cons]
  exact ⟨fun _ => rfl, fun _ => rfl, fun _ => rfl, fun _ => rfl, fun _ => rfl,
    fun _ h => absurd h List.not_mem_nil⟩

/-! ## 2. Escaped texts -/

namespace IsEscapeTable

variable {table : Char → List Char}

theorem plain_flatMap (h : IsEscapeTable table) {cs : List Char} {d : Char}
    (hd : d ∈ cs.flatMap table) : d ≠ '<' ∧ d ≠ '"' := by
  obtain ⟨c, -, hc⟩ := List.mem_flatMap.mp hd
  exact h.plain c d hc

theorem decodeReferences_flatMap (h : IsEscapeTable table) (cs : List Char) :
    decodeReferences (cs.flatMap table) = cs := by
  induction cs with
  | nil => rfl
  | cons c rest ih => rw [List.flatMap_cons, h.decoded, ih]

end IsEscapeTable

/-- A text that starts no tag and ends no value, and the text that it stands for. -/
structure Encodes (written value : String) : Prop where
  plain : ∀ c ∈ written.toList, c ≠ '<' ∧ c ≠ '"'
  decoded : decodeText written = value

theorem encodes_escape (s : String) : Encodes (escape s) s := by
  constructor
  · rw [escape_toList]
    exact fun c hc => isEscapeTable_escapeChar.plain_flatMap hc
  · rw [decodeText, escape_toList, isEscapeTable_escapeChar.decodeReferences_flatMap,
      String.ofList_toList]

theorem encodes_escapeHead (s : String) : Encodes (escapeHead s) s := by
  constructor
  · rw [escapeHead_toList]
    exact fun c hc => isEscapeTable_escapeHeadChar.plain_flatMap hc
  · rw [decodeText, escapeHead_toList, isEscapeTable_escapeHeadChar.decodeReferences_flatMap,
      String.ofList_toList]

/-- What is written alike stands for the same. -/
theorem Encodes.inj {a b s t : String} (ha : Encodes a s) (hb : Encodes b t) (h : a = b) :
    s = t := by
  rw [← ha.decoded, ← hb.decoded, h]

theorem Encodes.not_contains {a s : String} (h : Encodes a s) :
    a.toList.contains '<' = false := by
  rw [← Bool.not_eq_true, List.contains_iff_mem]
  exact fun hmem => (h.plain '<' hmem).1 rfl

/-- Only the empty text stands for the empty text. -/
theorem Encodes.isEmpty_eq {written value : String} (h : Encodes written value) :
    written.isEmpty = value.isEmpty := by
  have hchars := decodeReferences_isEmpty written.toList
  rw [← h.decoded, decodeText, Bool.eq_iff_iff]
  rw [Bool.eq_iff_iff] at hchars
  simpa using hchars.symm

theorem escapeHead_append (a b : String) : escapeHead (a ++ b) = escapeHead a ++ escapeHead b := by
  rw [← String.toList_inj]
  simp only [String.toList_append, escapeHead_toList, List.flatMap_append]

/-- Has a text no reserved characters? -/
def isPlain (s : String) : Bool :=
  s.toList.all fun c => !reserved.contains c

/-- A text without reserved characters is written as it stands. -/
theorem escapeHead_of_plain {s : String} (h : isPlain s = true) : escapeHead s = s := by
  rw [isPlain] at h
  rw [← String.toList_inj, escapeHead_toList]
  generalize s.toList = cs at h
  induction cs with
  | nil => rfl
  | cons c rest ih =>
    rw [List.all_cons, Bool.and_eq_true] at h
    have hc : c ∉ reserved := by simpa using h.1
    rw [List.flatMap_cons, escapeHeadChar_of_not_reserved hc, ih h.2, List.singleton_append]

end StaticSite.Markup
