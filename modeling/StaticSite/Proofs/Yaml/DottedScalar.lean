/-
StaticSite.Proofs.Yaml.DottedScalar — what digits with points stand for without quotes.

A text of decimal digits in groups with single points between them is a
string if it has two points or more, a number of 64 bits if it has one, and an
integer if it has none (`IsDotted.meaning`). So the text of what it stands for
is the text itself just if no digits are lost on the way (`keepsSpelling`): an
integer keeps no zeros in front, and a number of 64 bits is shown by the
shortest decimal that is read as it.
-/
import StaticSite.Proofs.Number.Shown
import StaticSite.Proofs.Yaml.FlowValue
import StaticSite.Value.Text

namespace StaticSite.Yaml

open StaticSite.Number StaticSite.Text

/-! ## 1. Digits with points -/

/-- Groups of decimal digits with single points between them. -/
inductive IsDotted : List Char → Prop
  | group (s : List Char) (digits : ∀ c ∈ s, isDigit c = true) (ne : s ≠ []) : IsDotted s
  | point (s rest : List Char) (digits : ∀ c ∈ s, isDigit c = true) (ne : s ≠ [])
      (more : IsDotted rest) : IsDotted (s ++ '.' :: rest)

/-- Is the text that is shown for what the digits stand for the one that was written? In the
first version, digits with a zero in front are no number if one of them is above seven. -/
def keepsSpelling (version : Version) (t : List Char) : Bool :=
  let whole := t.takeWhile (· != '.')
  match t.dropWhile (· != '.') with
  | [] =>
    if hasLeadingZero t then version == .v11 && t.any ('7' < ·)
    else t.length ≤ Number.maxDigits
  | _ :: fraction =>
    fraction.contains '.' ||
      (Binary64.ofDecimal false (numeral (whole ++ fraction)) (-fraction.length)).text == t

section

variable {s rest t : List Char} {version : Version}

theorem IsDotted.chars (ht : IsDotted t) : ∀ c ∈ t, isNumberChar c = true := by
  induction ht with
  | group s digits => exact fun c hc => isNumberChar_of_isDigit (digits c hc)
  | point s rest digits _ _ ih =>
    rw [List.forall_mem_append, List.forall_mem_cons]
    exact ⟨fun c hc => isNumberChar_of_isDigit (digits c hc), by decide, ih⟩

theorem IsDotted.starts (ht : IsDotted t) : ∃ c u, t = c :: u ∧ isDigit c = true := by
  cases ht with
  | group s digits ne | point s rest digits ne =>
    obtain ⟨c, u, rfl⟩ := List.exists_cons_of_ne_nil ne
    exact ⟨c, _, rfl, digits c List.mem_cons_self⟩

theorem IsDotted.ne_nil (ht : IsDotted t) : t ≠ [] := by
  obtain ⟨c, u, rfl, -⟩ := ht.starts
  exact List.cons_ne_nil c u

theorem ne_point_of_digits (hs : ∀ c ∈ s, isDigit c = true) :
    ∀ c ∈ s, (c != '.') = true := by
  intro c hc
  rw [bne_iff_ne]
  rintro rfl
  cases hs _ hc

theorem keepsSpelling_of_digits (hs : ∀ c ∈ s, isDigit c = true) :
    keepsSpelling version s =
      if hasLeadingZero s then version == .v11 && s.any ('7' < ·)
      else s.length ≤ Number.maxDigits := by
  have hrest : s.dropWhile (· != '.') = [] :=
    List.dropWhile_eq_nil_iff.mpr (ne_point_of_digits hs)
  rw [keepsSpelling, hrest]

theorem keepsSpelling_of_point (hs : ∀ c ∈ s, isDigit c = true) :
    keepsSpelling version (s ++ '.' :: rest) =
      (rest.contains '.' ||
        (Binary64.ofDecimal false (numeral (s ++ rest)) (-rest.length)).text ==
          s ++ '.' :: rest) := by
  have hwhole : (s ++ '.' :: rest).takeWhile (· != '.') = s := by
    rw [List.takeWhile_append_of_pos (ne_point_of_digits hs)]
    simp
  have hrest : (s ++ '.' :: rest).dropWhile (· != '.') = '.' :: rest := by
    rw [List.dropWhile_append_of_pos (ne_point_of_digits hs)]
    rfl
  rw [keepsSpelling, hwhole, hrest]

end

/-! ## 2. Which type the text has -/

section

variable {s : List Char} {version : Version} (hs : ∀ c ∈ s, isNumberChar c = true)
include hs

theorem stampText?_of_not_mem (h : '-' ∉ s) : stampText? s = none := by
  have hrest : ∀ n r, s.drop n ≠ '-' :: r := by
    intro n r hdrop
    exact h (List.mem_of_mem_drop (hdrop ▸ List.mem_cons_self))
  rw [stampText?, dropLineFeed_of_all hs (by decide)]
  unfold takeDigits
  dsimp only
  split
  · rename_i heq
    exact absurd heq (hrest _ _)
  · rfl

theorem isStamp_of_not_mem (h : '-' ∉ s) : isStamp s = false := by
  rw [isStamp, stampText?_of_not_mem hs h]

theorem not_isSixties : isSixties s = false := by
  have hcolon : ∀ c ∈ s, (c == ':') = false := by
    intro c hc
    rw [beq_eq_false_iff_ne]
    rintro rfl
    cases hs _ hc
  rw [isSixties, splitOn_of_none hcolon]

theorem not_isBaseInteger : isBaseInteger s = false := by
  unfold isBaseInteger
  split
  · cases hs 'b' (by simp)
  · cases hs 'x' (by simp)
  · rfl

theorem not_isSixtiesFraction : isSixtiesFraction s = false := by
  unfold isSixtiesFraction
  split
  · have hwhole : ∀ c ∈ s.takeWhile (· != '.'), isNumberChar c = true :=
      fun c hc => hs c (List.takeWhile_subset _ hc)
    rw [not_isSixties hwhole, Bool.false_and]
  · rfl

end

namespace IsDotted

variable {t : List Char} {version : Version} (ht : IsDotted t)
include ht

theorem dropSign : dropSign t = t := by
  obtain ⟨c, u, rfl, hc⟩ := ht.starts
  rw [dropSign.eq_def]
  split
  · rename_i heq
    cases heq
    cases hc
  · rename_i heq
    cases heq
    cases hc
  · rfl

theorem isNegative : isNegative t = false := by
  obtain ⟨c, u, rfl, hc⟩ := ht.starts
  rw [Number.isNegative, List.head?_cons, beq_eq_false_iff_ne]
  rintro ⟨⟩
  cases hc

theorem not_mem_minus : '-' ∉ t := by
  induction ht with
  | group s digits =>
    intro hmem
    cases digits _ hmem
  | point s rest digits _ _ ih =>
    rw [List.mem_append, List.mem_cons, not_or, not_or]
    refine ⟨?_, by decide, ih⟩
    intro hmem
    cases digits _ hmem

theorem isPointDecimal : isPointDecimal t = false := by
  obtain ⟨c, u, rfl, hc⟩ := ht.starts
  unfold Yaml.isPointDecimal
  split
  · rename_i heq
    cases heq
    cases hc
  · rfl

theorem isDecimal_eq : isDecimal version t = isUnsignedDecimal t := by
  have hnan : isWord ".nan" ".NaN" ".NAN" t = false := isWord_of_all ht.chars (by decide)
  have hinf : isWord ".inf" ".Inf" ".INF" t = false := isWord_of_all ht.chars (by decide)
  cases version <;>
    simp [isDecimal, ht.dropSign, hnan, hinf, ht.isPointDecimal,
      not_isSixtiesFraction ht.chars]

theorem isInteger_eq : isInteger version t = isUnsignedInteger version t := by
  have hhead : t.head? ≠ some '_' := by
    obtain ⟨c, u, rfl, hc⟩ := ht.starts
    rintro ⟨⟩
    cases hc
  rw [isInteger, ht.dropSign, bne_iff_ne.mpr hhead, Bool.and_true]

theorem withoutSpacing : withoutSpacing t = t := by
  rw [Yaml.withoutSpacing, List.filter_eq_self]
  intro c hc
  rw [bne_iff_ne]
  rintro rfl
  cases ht.chars _ hc

theorem readInteger_eq : readInteger version t = readUnsigned version t := by
  rw [readInteger, ht.withoutSpacing, List.isEmpty_eq_false_iff.mpr ht.ne_nil,
    if_neg Bool.false_ne_true, ht.dropSign, ht.isNegative]
  cases readUnsigned version t <;> rfl

/-- A text with a point is no integer. -/
theorem not_isInteger_of_mem (hpoint : '.' ∈ t) : isInteger version t = false := by
  have hall : ∀ p : Char → Bool, p '.' = false → t.all p = false := by
    intro p hp
    rw [List.all_eq_false]
    exact ⟨'.', hpoint, by simp [hp]⟩
  rw [ht.isInteger_eq, isUnsignedInteger.eq_def, not_isBaseInteger ht.chars, Bool.false_or]
  cases version with
  | v11 =>
    simp [allOf, hall _ (show isSpacedIn 8 '.' = false by decide),
      hall _ (show isSpaced '.' = false by decide), not_isSixties ht.chars]
  | v12 =>
    dsimp only
    split
    · cases ht.chars 'o' (by simp)
    · simp [allOf, hall _ (show isSpaced '.' = false by decide)]

end IsDotted

/-! ## 3. Integers -/

theorem isSpacedIn_eight_of_isDigit {c : Char} (hc : isDigit c = true) :
    isSpacedIn 8 c = !decide ('7' < c) := by
  have hall : ∀ d : Fin 10, isSpacedIn 8 (Nat.digitChar d) = !decide ('7' < Nat.digitChar d) := by
    decide
  obtain ⟨d, hd, rfl, -⟩ := exists_digitChar_of_isDigit hc
  exact hall ⟨d, hd⟩

section

variable {s : List Char} (hs : ∀ c ∈ s, isDigit c = true) (hne : s ≠ [])
include hs

theorem all_isSpacedIn_eight : s.all (isSpacedIn 8) = !s.any ('7' < ·) := by
  rw [List.not_any_eq_all_not, Bool.eq_iff_iff, List.all_eq_true, List.all_eq_true]
  refine forall₂_congr fun c hc => ?_
  rw [isSpacedIn_eight_of_isDigit (hs c hc)]

theorem integer?_of_many (h : Number.maxDigits < s.length) : integer? 10 s = none := by
  have hbase : dropBase 10 s = s := by
    unfold dropBase
    split <;> rfl
  simp [integer?, plainNumeral_of_digits hs, dropSign_of_digits hs, hbase, isLimited, h]

/-- Digits in a base make no negative number. -/
theorem nonneg_of_integer? {base : Nat} {n : Int} (hn : integer? base s = some n) :
    ∃ k : Nat, n = k := by
  simp only [integer?, plainNumeral_of_digits hs, isNegative_of_digits hs] at hn
  split at hn
  · cases hn
  · rw [Option.map_eq_some_iff] at hn
    obtain ⟨m, hm, hmn⟩ := hn
    cases hread : readNat? base (dropBase base (dropSign s)) with
    | none =>
      rw [hread] at hm
      cases hm
    | some k =>
      rw [hread] at hm
      cases hm
      exact ⟨k, hmn.symm⟩

include hne

theorem isInteger_v11_of_digits :
    isInteger .v11 s = !(hasLeadingZero s && s.any ('7' < ·)) := by
  have ht := IsDotted.group s hs hne
  have hall : s.all isSpaced = true := List.all_eq_true.mpr (isSpaced_of_digits hs)
  rw [ht.isInteger_eq, isUnsignedInteger.eq_def, not_isBaseInteger ht.chars]
  simp only [allOf, List.isEmpty_eq_false_iff.mpr hne, all_isSpacedIn_eight hs, hall,
    Bool.false_or, Bool.not_false, Bool.true_and, Bool.true_or, Bool.and_true, Bool.not_and]
  obtain ⟨c, u, rfl⟩ := List.exists_cons_of_ne_nil hne
  by_cases hc : c = '0'
  · subst hc
    cases u with
    | nil => decide
    | cons d u => simp [startsPositive, hasLeadingZero]
  · simp [startsPositive, hasLeadingZero, hs c, hc]

theorem integer?_ten_of_digits :
    integer? 10 s = if s.length ≤ Number.maxDigits then some (numeral s : Int) else none := by
  obtain ⟨n, hn⟩ := readNat?_of_digits hs hne
  split
  · rename_i hlength
    rw [integer?_of_digits hs hlength hn, numeral, hn, Option.getD_some]
  · rename_i hlength
    exact integer?_of_many hs (Nat.lt_of_not_le hlength)

/-- Digits are read in tens, if the first version does not see a zero in front of them. -/
theorem readUnsigned_eq_of_digits {version : Version}
    (hzero : version = .v12 ∨ hasLeadingZero s = false) :
    readUnsigned version s =
      if s.length ≤ Number.maxDigits then .ok (numeral s : Int) else .error .badNumber := by
  have hread := integer?_ten_of_digits hs hne
  unfold readUnsigned
  split
  · exact (second_ne_of_digits hs (by decide) rfl rfl).elim
  · exact (second_ne_of_digits hs (by decide) rfl rfl).elim
  · exact (second_ne_of_digits hs (by decide) rfl rfl).elim
  · by_cases hlength : s.length ≤ Number.maxDigits <;> simp [hread, hlength]
  · exact absurd rfl hne
  · decide
  · -- More digits follow the zero, so it is one in front.
    rename_i r _ _ _ hr
    obtain ⟨d, u, rfl⟩ := List.exists_cons_of_ne_nil hr
    rcases hzero with hversion | hzero
    · cases hversion
    · cases hzero
  · have hcolon : ∀ c ∈ s, (c == ':') = false := by
      intro c hc
      rw [beq_eq_false_iff_ne]
      rintro rfl
      cases hs _ hc
    by_cases hlength : s.length ≤ Number.maxDigits <;>
      simp [splitOn_of_none hcolon, hread, hlength, sixties]

/-- In the first version, digits with a zero in front are counted in eights. -/
theorem readUnsigned_of_hasLeadingZero (hzero : hasLeadingZero s = true) :
    readUnsigned .v11 s =
      match integer? 8 s with
      | some n => .ok n
      | none => .error .badNumber := by
  unfold readUnsigned
  split
  · exact (second_ne_of_digits hs (by decide) rfl rfl).elim
  · exact (second_ne_of_digits hs (by decide) rfl rfl).elim
  · exact (second_ne_of_digits hs (by decide) rfl rfl).elim
  · contradiction
  · cases hzero
  · cases hzero
  · rfl
  · rename_i hother
    unfold hasLeadingZero at hzero
    split at hzero
    · exact (hother _ rfl).elim
    · cases hzero

theorem nonneg_of_readUnsigned {version : Version} {n : Int}
    (hn : readUnsigned version s = .ok n) : ∃ k : Nat, n = k := by
  by_cases hzero : version = .v12 ∨ hasLeadingZero s = false
  · rw [readUnsigned_eq_of_digits hs hne hzero] at hn
    split at hn
    · cases hn
      exact ⟨_, rfl⟩
    · cases hn
  · rw [not_or, Bool.not_eq_false] at hzero
    cases version with
    | v12 => exact absurd rfl hzero.1
    | v11 =>
      rw [readUnsigned_of_hasLeadingZero hs hne hzero.2] at hn
      split at hn
      · rename_i hread
        cases hn
        exact nonneg_of_integer? hs hread
      · cases hn

end

/-! ## 4. Numbers with a point -/

theorem toLower_of_isNumberChar {c : Char} (hc : isNumberChar c = true) : c.toLower = c := by
  have hrange := toNat_of_isNumberChar hc
  refine dif_neg ?_
  rintro ⟨hlow, -⟩
  have hnat : 'A'.toNat ≤ c.toNat := hlow
  have hcode : 'A'.toNat = 65 := rfl
  omega

theorem map_toLower_of_isNumberChar {s : List Char} (hs : ∀ c ∈ s, isNumberChar c = true) :
    s.map Char.toLower = s :=
  (List.map_congr_left fun c hc => toLower_of_isNumberChar (hs c hc)).trans (List.map_id s)

theorem groupedDigits_of_digits {s : List Char} (hs : ∀ c ∈ s, isDigit c = true) :
    Binary64.groupedDigits s = some s := by
  induction s with
  | nil => rfl
  | cons c s ih =>
    rw [List.forall_mem_cons] at hs
    cases s with
    | nil => simp [Binary64.groupedDigits, hs.1]
    | cons d s =>
      have hd : d ≠ '_' := by
        rintro rfl
        cases hs.2 _ List.mem_cons_self
      rw [Binary64.groupedDigits.eq_def]
      split
      · rename_i heq
        cases heq
      · rename_i heq
        cases heq
      · rename_i heq
        cases heq
        exact absurd rfl hd
      · rename_i heq
        cases heq
        rw [if_pos hs.1, ih hs.2]
        rfl

namespace IsDotted

variable {t : List Char} (ht : IsDotted t)
include ht

theorem float?_eq : float? t = Binary64.readUnsigned false t := by
  have hword : ∀ word : String, word.toList.all isNumberChar = false →
      (t == word.toList) = false := by
    intro word hword
    rw [beq_eq_false_iff_ne]
    exact ne_of_all ht.chars hword
  have hmagnitude : Binary64.readMagnitude false t = Binary64.readUnsigned false t := by
    simp only [Binary64.readMagnitude, map_toLower_of_isNumberChar ht.chars,
      hword "inf" (by decide), hword "infinity" (by decide), hword "nan" (by decide), Bool.or_self,
      Bool.false_eq_true, if_false]
  rw [float?, plainNumeral_of_isNumberChar ht.chars, ← hmagnitude]
  obtain ⟨c, u, rfl, hc⟩ := ht.starts
  unfold Binary64.ofText?
  split
  · rename_i heq
    cases heq
    cases hc
  · rename_i heq
    cases heq
    cases hc
  · rfl

theorem readFloat_eq (version : Version) :
    readFloat version t =
      match Binary64.readUnsigned false t with
      | some x => .ok x
      | none => .error .badNumber := by
  have hcolon : t.contains ':' = false := by
    rw [← Bool.not_eq_true, List.contains_iff_mem]
    intro hmem
    cases ht.chars _ hmem
  rw [← ht.float?_eq]
  have hne := List.isEmpty_eq_false_iff.mpr ht.ne_nil
  unfold readFloat
  simp only [ht.withoutSpacing, map_toLower_of_isNumberChar ht.chars, ht.dropSign,
    ht.isNegative, hne, Bool.false_eq_true, if_false]
  obtain ⟨c, u, rfl, hc⟩ := ht.starts
  congr 1
  split
  · rename_i heq
    cases heq
    cases hc
  · rename_i heq
    cases heq
    cases hc
  · rw [hcolon, Bool.and_false, if_neg Bool.false_ne_true]

end IsDotted

section

variable {whole fraction : List Char} (hw : ∀ c ∈ whole, isDigit c = true) (hne : whole ≠ [])
  (hf : ∀ c ∈ fraction, isDigit c = true)
include hw hne

theorem isUnsignedDecimal_point (rest : List Char) :
    isUnsignedDecimal (whole ++ '.' :: rest) =
      ((rest.dropWhile isSpaced).isEmpty || isExponent false (rest.dropWhile isSpaced)) := by
  have hspaced := isSpaced_of_digits hw
  have hdigits : isDigitsAfterDigit whole = true := by
    obtain ⟨c, u, rfl⟩ := List.exists_cons_of_ne_nil hne
    rw [isDigitsAfterDigit, List.all_eq_true.mpr hspaced, List.head?_cons, Bool.and_true]
    exact hw c List.mem_cons_self
  have htake : (whole ++ '.' :: rest).takeWhile isSpaced = whole := by
    rw [List.takeWhile_append_of_pos hspaced]
    simp [isSpaced, isDigit]
  have hdrop : (whole ++ '.' :: rest).dropWhile isSpaced = '.' :: rest := by
    rw [List.dropWhile_append_of_pos hspaced]
    rfl
  simp only [isUnsignedDecimal, htake, hdrop, hdigits, Bool.true_and]

include hf

theorem readUnsigned_point :
    Binary64.readUnsigned false (whole ++ '.' :: fraction) =
      some (Binary64.ofDecimal false (numeral (whole ++ fraction)) (-fraction.length)) := by
  have hmark : ∀ c ∈ whole ++ '.' :: fraction, (!(c == 'e' || c == 'E')) = true := by
    have hdigit : ∀ c, isDigit c = true → (!(c == 'e' || c == 'E')) = true := by
      intro c hc
      rw [Bool.not_eq_true', Bool.or_eq_false_iff, beq_eq_false_iff_ne, beq_eq_false_iff_ne]
      constructor
      · rintro rfl
        cases hc
      · rintro rfl
        cases hc
    rw [List.forall_mem_append, List.forall_mem_cons]
    exact ⟨fun c hc => hdigit c (hw c hc), by decide, fun c hc => hdigit c (hf c hc)⟩
  have hmantissa := List.takeWhile_eq_self_iff.mpr hmark
  have htail := List.dropWhile_eq_nil_iff.mpr hmark
  have hwhole : (whole ++ '.' :: fraction).takeWhile (· != '.') = whole := by
    rw [List.takeWhile_append_of_pos (ne_point_of_digits hw)]
    simp
  have hrest : (whole ++ '.' :: fraction).dropWhile (· != '.') = '.' :: fraction := by
    rw [List.dropWhile_append_of_pos (ne_point_of_digits hw)]
    rfl
  obtain ⟨n, hn⟩ : ∃ n, readNat? 10 (whole ++ fraction) = some n :=
    readNat?_of_digits (List.forall_mem_append.mpr ⟨hw, hf⟩)
      (List.append_ne_nil_of_left_ne_nil hne _)
  unfold Binary64.readUnsigned
  simp only [hmantissa, htail, hwhole, hrest, List.drop_one, List.tail_cons,
    groupedDigits_of_digits hw, groupedDigits_of_digits hf, List.isEmpty_eq_false_iff.mpr hne, hn,
    numeral]
  simp

theorem readFloat_point {version : Version} (hfne : fraction ≠ []) :
    readFloat version (whole ++ '.' :: fraction) =
      .ok (Binary64.ofDecimal false (numeral (whole ++ fraction)) (-fraction.length)) := by
  have ht : IsDotted (whole ++ '.' :: fraction) := .point _ _ hw hne (.group _ hf hfne)
  rw [ht.readFloat_eq, readUnsigned_point hw hne hf]

end

/-! ## 5. What the text stands for -/

/-- What digits with points may stand for, and whether the text of it is the one that was
written. -/
inductive HasMeaning (version : Version) (t : List Char) : Except Error Meaning → Prop
  | string (keeps : keepsSpelling version t = true) :
      HasMeaning version t (.ok (.value (stringValue t)))
  | integer (n : Nat)
      (keeps : keepsSpelling version t = true ↔ natText n = t ∧ t.length ≤ Number.maxDigits) :
      HasMeaning version t (.ok (.value (.int n)))
  | float (x : Binary64) (keeps : keepsSpelling version t = true ↔ x.text = t) :
      HasMeaning version t (.ok (.value (.float x)))
  | fault (e : Error) (keeps : keepsSpelling version t = false) : HasMeaning version t (.error e)

section

variable {s : List Char} (hs : ∀ c ∈ s, isDigit c = true) (hne : s ≠ []) (version : Version)
include hs hne

theorem isInteger_iff_of_digits :
    isInteger version s = !(version == .v11 && (hasLeadingZero s && s.any ('7' < ·))) := by
  cases version with
  | v11 => exact isInteger_v11_of_digits hs hne
  | v12 => exact (IsDotted.group s hs hne).isInteger_eq.trans (isInteger_of_digits hs hne)

/-- Digits that are read in tens keep their spelling if they have no zero in front and are not
too many. -/
theorem hasMeaning_of_tens (hzero : version = .v12 ∨ hasLeadingZero s = false) :
    HasMeaning version s
      ((readUnsigned version s).map fun n => Meaning.value (Value.int n)) := by
  have hkeeps : keepsSpelling version s =
      (!hasLeadingZero s && decide (s.length ≤ Number.maxDigits)) := by
    rw [keepsSpelling_of_digits hs]
    rcases hzero with rfl | hzero
    · cases hasLeadingZero s <;> simp
    · simp [hzero]
  obtain ⟨n, hn⟩ := readNat?_of_digits hs hne
  rw [readUnsigned_eq_of_digits hs hne hzero]
  split
  · rename_i hlength
    refine .integer (numeral s) ?_
    rw [hkeeps, decide_eq_true hlength, Bool.and_true, Bool.not_eq_true', and_iff_left hlength,
      numeral, hn, Option.getD_some]
    constructor
    · intro hfront
      exact natText_of_readNat? hs hfront hn
    · intro htext
      rw [← htext]
      exact hasLeadingZero_natText n
  · rename_i hlength
    refine .fault _ ?_
    rw [hkeeps, decide_eq_false hlength, Bool.and_false]

/-- Digits that are read in eights have a zero in front and lose it. -/
theorem hasMeaning_of_eights (hzero : hasLeadingZero s = true) (hany : s.any ('7' < ·) = false) :
    HasMeaning .v11 s ((readUnsigned .v11 s).map fun n => Meaning.value (Value.int n)) := by
  have hkeeps : keepsSpelling .v11 s = false := by
    rw [keepsSpelling_of_digits hs, hzero, if_pos rfl, hany, Bool.and_false]
  cases hread : readUnsigned .v11 s with
  | error e => exact .fault e hkeeps
  | ok n =>
    obtain ⟨k, rfl⟩ := nonneg_of_readUnsigned hs hne hread
    refine .integer k ?_
    rw [hkeeps]
    refine iff_of_false Bool.false_ne_true ?_
    rintro ⟨htext, -⟩
    rw [← htext, hasLeadingZero_natText] at hzero
    cases hzero

theorem hasMeaning_of_digits : HasMeaning version s (plainMeaning version s) := by
  have ht := IsDotted.group s hs hne
  have hdecimal : isDecimal version s = false :=
    ht.isDecimal_eq.trans (not_isUnsignedDecimal_of_digits hs)
  rw [plainMeaning_of_isNumberChar ht.chars hne, hdecimal, if_neg Bool.false_ne_true,
    ht.readInteger_eq, isInteger_iff_of_digits hs hne, isStamp_of_not_mem ht.chars ht.not_mem_minus]
  by_cases htens : version = .v12 ∨ hasLeadingZero s = false
  · rw [if_pos]
    · exact hasMeaning_of_tens hs hne version htens
    · rcases htens with rfl | hzero
      · rfl
      · rw [hzero, Bool.false_and, Bool.and_false]
        rfl
  · rw [not_or, Bool.not_eq_false] at htens
    obtain ⟨hversion, hzero⟩ := htens
    obtain rfl : version = .v11 := by
      cases version with
      | v11 => rfl
      | v12 => exact absurd rfl hversion
    rw [hzero, Bool.true_and]
    cases hany : s.any ('7' < ·) with
    | false => exact hasMeaning_of_eights hs hne hzero hany
    | true =>
      refine .string ?_
      rw [keepsSpelling_of_digits hs, hzero, if_pos rfl, hany]
      rfl

end

theorem IsDotted.meaning {t : List Char} (ht : IsDotted t) (version : Version) :
    HasMeaning version t (plainMeaning version t) := by
  cases ht with
  | group s digits ne => exact hasMeaning_of_digits digits ne version
  | point s rest digits ne more =>
    have ht := IsDotted.point s rest digits ne more
    rw [plainMeaning_of_isNumberChar ht.chars ht.ne_nil, ht.isDecimal_eq,
      isUnsignedDecimal_point digits ne]
    cases more with
    | group _ hf hfne =>
      have htail : rest.dropWhile isSpaced = [] :=
        List.dropWhile_eq_nil_iff.mpr (isSpaced_of_digits hf)
      rw [htail, List.isEmpty_nil, Bool.true_or, if_pos rfl, readFloat_point digits ne hf hfne]
      refine .float _ ?_
      have hpoint : rest.contains '.' = false := by
        rw [← Bool.not_eq_true, List.contains_iff_mem]
        intro hmem
        cases hf _ hmem
      rw [keepsSpelling_of_point digits, hpoint, Bool.false_or, beq_iff_eq]
    | point next rest hnext =>
      have htail : (next ++ '.' :: rest).dropWhile isSpaced = '.' :: rest := by
        rw [List.dropWhile_append_of_pos (isSpaced_of_digits hnext)]
        rfl
      have hmem : '.' ∈ next ++ '.' :: rest := by simp
      rw [htail, if_neg (by simp [isExponent]), ht.not_isInteger_of_mem (by simp),
        if_neg Bool.false_ne_true, isStamp_of_not_mem ht.chars ht.not_mem_minus,
        if_neg Bool.false_ne_true]
      refine .string ?_
      rw [keepsSpelling_of_point digits, List.contains_iff_mem.mpr hmem, Bool.true_or]

/-! ## 6. The text of what it stands for -/

namespace IsDotted

variable {t : List Char} {version : Version} (ht : IsDotted t)
include ht

theorem exists_value_of_keepsSpelling (hkeeps : keepsSpelling version t = true) :
    ∃ v, plainMeaning version t = .ok (.value v) := by
  have hmeaning := ht.meaning version
  generalize plainMeaning version t = meaning at hmeaning
  cases hmeaning with
  | string | integer | float => exact ⟨_, rfl⟩
  | fault e keeps =>
    rw [hkeeps] at keeps
    cases keeps

variable {v : Value} (hv : plainMeaning version t = .ok (.value v))
include hv

theorem ne_null : v ≠ .null := by
  have hmeaning := ht.meaning version
  rw [hv] at hmeaning
  rintro rfl
  cases hmeaning

/-- What is shown has characters, and none of them is blank. -/
theorem exists_shown : ∃ s, v.shown = String.ofList s ∧ s ≠ [] ∧ ∀ c ∈ s, IsGraphic c := by
  have hmeaning := ht.meaning version
  rw [hv] at hmeaning
  cases hmeaning with
  | string =>
    exact ⟨t, rfl, ht.ne_nil, fun c hc => isGraphic_of_isNumberChar (ht.chars c hc)⟩
  | integer n => exact ⟨natText n, rfl, natText_ne_nil n, fun c hc => isGraphic_of_mem_natText hc⟩
  | float x => exact ⟨x.text, rfl, x.text_ne_nil, x.isGraphic_text⟩

/-- The text of what is meant is the one that was written just if its spelling is kept. -/
theorem text_eq_iff : v.text = .ok (String.ofList t) ↔ keepsSpelling version t = true := by
  have hmeaning := ht.meaning version
  rw [hv] at hmeaning
  cases hmeaning with
  | string keeps => exact iff_of_true rfl keeps
  | integer n keeps =>
    have htext : (Value.int n).text =
        if isWritable n then .ok (String.ofList (natText n)) else .error .tooManyDigits := rfl
    rw [keeps, htext]
    split
    · rename_i hwritable
      rw [Except.ok.injEq, String.ofList_inj]
      constructor
      · rintro rfl
        exact ⟨rfl, (isWritable_iff n).mp hwritable⟩
      · exact And.left
    · rename_i hwritable
      refine iff_of_false (fun h => ?_) ?_
      · cases h
      · rintro ⟨rfl, hlength⟩
        exact hwritable ((isWritable_iff n).mpr hlength)
  | float x keeps =>
    have htext : (Value.float x).text = .ok (String.ofList x.text) := rfl
    rw [keeps, htext, Except.ok.injEq, String.ofList_inj]

-- A fraction has no zero at its end, but the groups of a text with two points are as they are.
example : keepsSpelling .v12 "1.10".toList = false ∧ keepsSpelling .v12 "1.10.0".toList = true := by
  decide

/-- The only numbers that are void are zeros, which keep their spelling in two ways. -/
theorem zero_of_isVoid (htext : v.text = .ok (String.ofList t)) (hvoid : v.isVoid = true) :
    t = "0".toList ∨ t = "0.0".toList := by
  have hkeeps := (ht.text_eq_iff hv).mp htext
  have hmeaning := ht.meaning version
  rw [hv] at hmeaning
  cases hmeaning with
  | string =>
    rw [stringValue, Value.isVoid, String.isEmpty_iff, String.ofList_eq_empty_iff] at hvoid
    exact absurd hvoid ht.ne_nil
  | integer n keeps =>
    rw [Value.isVoid, beq_iff_eq, Int.natCast_eq_zero] at hvoid
    rw [← (keeps.mp hkeeps).1, hvoid]
    exact .inl rfl
  | float x keeps =>
    have hx := keeps.mp hkeeps
    cases x with
    | finite negative m e =>
      have hm : m = 0 := by simpa [Value.isVoid, Binary64.isZero] using hvoid
      rw [← hx, Binary64.text, hm, beq_self_eq_true, if_pos rfl]
      cases negative with
      | true =>
        have hminus := ht.not_mem_minus
        rw [← hx, Binary64.text, hm] at hminus
        exact absurd List.mem_cons_self hminus
      | false => exact .inr rfl
    | infinite | nan => cases hvoid

end IsDotted

end StaticSite.Yaml
