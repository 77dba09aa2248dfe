/-
StaticSite.Proofs.Yaml.FlowText — data written on one line.

Texts stand in double quotes, where all but the printable characters of ASCII
are escaped; lists and mappings stand in brackets, with a space after each
comma and colon. So the line holds nothing but printable characters of ASCII
(`isLineChar_of_mem_text`), and what it starts with tells what is read there
(`starts_text`).
-/
import StaticSite.Proofs.Number.Digits
import StaticSite.Yaml.Node
import StaticSite.Value.Basic
import StaticSite.Proofs.Text.Splitting

namespace StaticSite.Yaml

open StaticSite.Number StaticSite.Text

/-! ## 1. Data -/

/-- Data that can be written on one line: scalars, lists, and mappings with texts for keys. -/
inductive FlowData where
  | null
  | bool (b : Bool)
  | int (n : Int)
  | string (s : String)
  | list (items : List FlowData)
  | map (entries : List (String × FlowData))

/-- A printable character of ASCII. -/
def isLineChar (c : Char) : Bool :=
  0x20 ≤ c.toNat && c.toNat ≤ 0x7E

/-- How a character is written in double quotes: by itself, after a backslash, or by its number
in as few digits as can be. -/
def escapeText (c : Char) : List Char :=
  if c == '"' || c == '\\' then ['\\', c]
  else if isLineChar c then [c]
  else if c.toNat < 0x100 then '\\' :: 'x' :: hexText 2 c.toNat
  else if c.toNat < 0x10000 then '\\' :: 'u' :: hexText 4 c.toNat
  else '\\' :: 'U' :: hexText 8 c.toNat

/-- A text in double quotes. -/
def quotedText (s : String) : List Char :=
  '"' :: (s.toList.flatMap escapeText ++ ['"'])

/-- An entry of a mapping, whose value is written already. -/
def entryText (key : String) (value : List Char) : List Char :=
  quotedText key ++ ':' :: ' ' :: value

/-- The word for a truth value. -/
def truthText (b : Bool) : List Char :=
  if b then "true".toList else "false".toList

/-- Written members in brackets. -/
def bracketText (opening closing : Char) (members : List (List Char)) : List Char :=
  opening :: (joinLists [',', ' '] members ++ [closing])

namespace FlowData

mutual

/-- The data on one line. -/
def text : FlowData → List Char
  | .null => "null".toList
  | .bool b => truthText b
  | .int n => intText n
  | .string s => quotedText s
  | .list items => bracketText '[' ']' (itemTexts items)
  | .map entries => bracketText '\x7b' '\x7d' (entryTexts entries)

/-- The items of a list, each on a line. -/
def itemTexts : List FlowData → List (List Char)
  | [] => []
  | d :: rest => d.text :: itemTexts rest

/-- The entries of a mapping, each on a line. -/
def entryTexts : List (String × FlowData) → List (List Char)
  | [] => []
  | (key, d) :: rest => entryText key d.text :: entryTexts rest

end

mutual

/-- The tree that the line spells. -/
def node : FlowData → Node
  | .null => .scalar .absent true "null".toList
  | .bool b => .scalar .absent true (truthText b)
  | .int n => .scalar .absent true (intText n)
  | .string s => .scalar .absent false s.toList
  | .list items => .seq .absent (itemNodes items)
  | .map entries => .map .absent (entryNodes entries)

/-- The trees of the items of a list. -/
def itemNodes : List FlowData → List Node
  | [] => []
  | d :: rest => d.node :: itemNodes rest

/-- The trees of the entries of a mapping. -/
def entryNodes : List (String × FlowData) → List (Node × Node)
  | [] => []
  | (key, d) :: rest => (.scalar .absent false key.toList, d.node) :: entryNodes rest

end

mutual

/-- The data as a value. -/
def value : FlowData → Value
  | .null => .null
  | .bool b => .bool b
  | .int n => .int n
  | .string s => .string s
  | .list items => .list (itemValues items)
  | .map entries => .map (entryValues entries)

/-- The items of a list as values. -/
def itemValues : List FlowData → List Value
  | [] => []
  | d :: rest => d.value :: itemValues rest

/-- The entries of a mapping as values. -/
def entryValues : List (String × FlowData) → List (Value × Value)
  | [] => []
  | (key, d) :: rest => (.string key, d.value) :: entryValues rest

end

/-- The most digits that an integer may have here. -/
def maxDigits : Nat := 4000

/-- The longest that a key may be here, with its quotes. -/
def maxKeyText : Nat := 1000

/-- Data within the limits: integers are not too long, and the keys of a mapping are neither too
long nor there twice. -/
inductive IsFit : FlowData → Prop
  | null : IsFit .null
  | bool (b : Bool) : IsFit (.bool b)
  | int (n : Int) (short : (natText n.natAbs).length ≤ maxDigits) : IsFit (.int n)
  | string (s : String) : IsFit (.string s)
  | list (items : List FlowData) (fit : ∀ d ∈ items, IsFit d) : IsFit (.list items)
  | map (entries : List (String × FlowData)) (fit : ∀ e ∈ entries, IsFit e.2)
      (short : ∀ e ∈ entries, (quotedText e.1).length ≤ maxKeyText)
      (distinct : (entries.map Prod.fst).Nodup) : IsFit (.map entries)

/-! ## 2. Members -/

theorem itemTexts_eq (items : List FlowData) : itemTexts items = items.map text := by
  induction items with
  | nil => rfl
  | cons d rest ih => rw [itemTexts, ih, List.map_cons]

theorem entryTexts_eq (entries : List (String × FlowData)) :
    entryTexts entries = entries.map fun e => entryText e.1 e.2.text := by
  induction entries with
  | nil => rfl
  | cons e rest ih => rw [entryTexts, ih, List.map_cons]

theorem itemNodes_eq (items : List FlowData) : itemNodes items = items.map node := by
  induction items with
  | nil => rfl
  | cons d rest ih => rw [itemNodes, ih, List.map_cons]

theorem entryNodes_eq (entries : List (String × FlowData)) :
    entryNodes entries = entries.map fun e => (.scalar .absent false e.1.toList, e.2.node) := by
  induction entries with
  | nil => rfl
  | cons e rest ih => rw [entryNodes, ih, List.map_cons]

theorem itemValues_eq (items : List FlowData) : itemValues items = items.map value := by
  induction items with
  | nil => rfl
  | cons d rest ih => rw [itemValues, ih, List.map_cons]

theorem entryValues_eq (entries : List (String × FlowData)) :
    entryValues entries = entries.map fun e => (.string e.1, e.2.value) := by
  induction entries with
  | nil => rfl
  | cons e rest ih => rw [entryValues, ih, List.map_cons]

end FlowData

/-! ## 3. Characters -/

/-- A character of a class is none that is not in it. -/
theorem ne_of_class {p : Char → Bool} {c d : Char} (hc : p c = true) (hd : p d = false) :
    c ≠ d := by
  rintro rfl
  rw [hc] at hd
  cases hd

theorem isLineChar_of_isAlphanum {c : Char} (h : c.isAlphanum = true) : isLineChar c = true := by
  have hrange : ∀ low high : Nat, 0x20 ≤ low → high ≤ 0x7E → low ≤ c.toNat ∧ c.toNat ≤ high →
      isLineChar c = true := by
    intro low high hlow hhigh hc
    simp only [isLineChar, Bool.and_eq_true, decide_eq_true_eq]
    omega
  rcases (Bool.or_eq_true _ _).mp h with halpha | hdigit
  · rcases (Bool.or_eq_true _ _).mp halpha with hupper | hlower
    · obtain ⟨hlow, hhigh⟩ := of_decide_eq_true hupper
      exact hrange 'A'.toNat 'Z'.toNat (by decide) (by decide)
        ⟨UInt32.le_iff_toNat_le.mp hlow, UInt32.le_iff_toNat_le.mp hhigh⟩
    · obtain ⟨hlow, hhigh⟩ := (Bool.and_eq_true _ _).mp hlower
      exact hrange 'a'.toNat 'z'.toNat (by decide) (by decide)
        ⟨UInt32.le_iff_toNat_le.mp (of_decide_eq_true hlow),
          UInt32.le_iff_toNat_le.mp (of_decide_eq_true hhigh)⟩
  · exact hrange '0'.toNat '9'.toNat (by decide) (by decide) (Char.isDigit_iff_toNat.mp hdigit)

theorem isLineChar_of_mem_escapeText {a c : Char} (h : a ∈ escapeText c) :
    isLineChar a = true := by
  have hhex : ∀ {letter : Char} {width : Nat}, letter.isAlphanum = true →
      a ∈ '\\' :: letter :: hexText width c.toNat → isLineChar a = true := by
    intro letter width hletter ha
    rcases List.mem_cons.mp ha with rfl | ha
    · decide
    · rcases List.mem_cons.mp ha with rfl | hdigit
      · exact isLineChar_of_isAlphanum hletter
      · exact isLineChar_of_isAlphanum (isAlphanum_of_mem_hexText hdigit)
  rw [escapeText] at h
  split at h
  · rename_i hc
    have hquote : isLineChar '"' = true ∧ isLineChar '\\' = true := by decide
    rw [Bool.or_eq_true, beq_iff_eq, beq_iff_eq] at hc
    rcases List.mem_cons.mp h with rfl | hself
    · exact hquote.2
    · rw [List.mem_singleton] at hself
      rcases hc with rfl | rfl
      · exact hself ▸ hquote.1
      · exact hself ▸ hquote.2
  · split at h
    · rename_i hc
      exact List.mem_singleton.mp h ▸ hc
    · split at h
      · exact hhex (by decide) h
      · split at h
        · exact hhex (by decide) h
        · exact hhex (by decide) h

theorem isLineChar_of_mem_quotedText {a : Char} {s : String} (h : a ∈ quotedText s) :
    isLineChar a = true := by
  rcases List.mem_cons.mp h with rfl | h
  · decide
  · rcases List.mem_append.mp h with hinside | hend
    · obtain ⟨c, -, hc⟩ := List.mem_flatMap.mp hinside
      exact isLineChar_of_mem_escapeText hc
    · rw [List.mem_singleton.mp hend]
      decide

theorem isLineChar_of_mem_bracketText {a opening closing : Char} {members : List (List Char)}
    (hopening : isLineChar opening = true) (hclosing : isLineChar closing = true)
    (hmembers : ∀ member ∈ members, ∀ b ∈ member, isLineChar b = true)
    (h : a ∈ bracketText opening closing members) : isLineChar a = true := by
  rcases List.mem_cons.mp h with rfl | h
  · exact hopening
  · rcases List.mem_append.mp h with hjoined | hend
    · rcases mem_joinLists hjoined with hseparator | ⟨member, hmember, ha⟩
      · have hall : ∀ b ∈ [',', ' '], isLineChar b = true := List.all_eq_true.mp (by decide)
        exact hall a hseparator
      · exact hmembers member hmember a ha
    · exact List.mem_singleton.mp hend ▸ hclosing

theorem isAlphanum_of_mem_natText {c : Char} {n : Nat} (h : c ∈ natText n) :
    c.isAlphanum = true :=
  isAlphanum_of_mem_toDigits (by decide) (by decide) h

namespace FlowData

/-- The line of data holds printable characters of ASCII, and is one line for that. -/
theorem IsFit.isLineChar_of_mem_text {d : FlowData} (hd : d.IsFit) :
    ∀ a ∈ d.text, isLineChar a = true := by
  induction hd with
  | null => exact List.all_eq_true.mp (by decide)
  | bool b => cases b <;> exact List.all_eq_true.mp (by decide)
  | int n _ =>
    intro a ha
    cases n with
    | ofNat n => exact isLineChar_of_isAlphanum (isAlphanum_of_mem_natText ha)
    | negSucc n =>
      rcases List.mem_cons.mp ha with rfl | hdigit
      · decide
      · exact isLineChar_of_isAlphanum (isAlphanum_of_mem_natText hdigit)
  | string s => exact fun a ha => isLineChar_of_mem_quotedText ha
  | list items _ ih =>
    intro a ha
    rw [text, itemTexts_eq] at ha
    refine isLineChar_of_mem_bracketText (by decide) (by decide) ?_ ha
    intro member hmember b hb
    obtain ⟨d, hd, rfl⟩ := List.mem_map.mp hmember
    exact ih d hd b hb
  | map entries _ _ _ ih =>
    intro a ha
    rw [text, entryTexts_eq] at ha
    refine isLineChar_of_mem_bracketText (by decide) (by decide) ?_ ha
    intro member hmember b hb
    obtain ⟨e, he, rfl⟩ := List.mem_map.mp hmember
    rcases List.mem_append.mp hb with hkey | hvalue
    · exact isLineChar_of_mem_quotedText hkey
    · rcases List.mem_cons.mp hvalue with rfl | hvalue
      · decide
      · rcases List.mem_cons.mp hvalue with rfl | hvalue
        · decide
        · exact ih e he b hvalue

example : (FlowData.list [.string "é\"", .string "<<", .null, .int (-12)]).text =
    "[\"\\xe9\\\"\", \"<<\", null, -12]".toList := by
  decide

end FlowData

/-! ## 4. Words and starts -/

/-- A word of letters and digits, perhaps with a sign in front of it. -/
inductive IsPlainWord : List Char → Prop
  | bare (c : Char) (s : List Char) (word : ∀ a ∈ c :: s, a.isAlphanum = true) :
    IsPlainWord (c :: s)
  | signed (c : Char) (s : List Char) (word : ∀ a ∈ c :: s, a.isAlphanum = true) :
    IsPlainWord ('-' :: c :: s)

theorem isPlainWord_truthText (b : Bool) : IsPlainWord (truthText b) := by
  cases b with
  | true => exact .bare _ _ (List.all_eq_true.mp (by decide))
  | false => exact .bare _ _ (List.all_eq_true.mp (by decide))

theorem isPlainWord_intText (n : Int) : IsPlainWord (intText n) := by
  have hdigits : ∀ n, ∃ c s, natText n = c :: s ∧ ∀ a ∈ c :: s, a.isAlphanum = true := by
    intro n
    obtain ⟨c, s, hcs⟩ := List.exists_cons_of_ne_nil (natText_ne_nil n)
    exact ⟨c, s, hcs, fun a ha => isAlphanum_of_mem_natText (hcs ▸ ha)⟩
  cases n with
  | ofNat n =>
    obtain ⟨c, s, hcs, hall⟩ := hdigits n
    rw [intText, hcs]
    exact .bare c s hall
  | negSucc n =>
    obtain ⟨c, s, hcs, hall⟩ := hdigits (n + 1)
    rw [intText, hcs]
    exact .signed c s hall

/-- A character that data starts with on its line. -/
def isStart (c : Char) : Bool :=
  c.isAlphanum || c == '-' || c == '"' || c == '[' || c == '\x7b'

theorem IsPlainWord.starts {w : List Char} (h : IsPlainWord w) :
    ∃ c s, w = c :: s ∧ isStart c = true := by
  cases h with
  | bare c s word => exact ⟨c, s, rfl, by simp [isStart, word c List.mem_cons_self]⟩
  | signed c s word => exact ⟨'-', c :: s, rfl, by decide⟩

theorem FlowData.starts_text (d : FlowData) : ∃ c s, d.text = c :: s ∧ isStart c = true := by
  cases d with
  | null => exact ⟨_, _, rfl, by decide⟩
  | bool b => exact (isPlainWord_truthText b).starts
  | int n => exact (isPlainWord_intText n).starts
  | string s => exact ⟨_, _, rfl, by decide⟩
  | list items => exact ⟨_, _, rfl, by decide⟩
  | map entries => exact ⟨_, _, rfl, by decide⟩

end StaticSite.Yaml
