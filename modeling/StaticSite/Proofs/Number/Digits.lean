/-
StaticSite.Proofs.Number.Digits — numerals that are read back.

The numeral of a number is read as that number, in every base up to sixteen
and with any zeros in front (`readNat?_toDigits`, `readNat?_hexText`). In base
ten, digits with no zero in front are the numeral of the number that they are
read as (`natText_of_readNat?`), and no numeral has one
(`hasLeadingZero_natText`).
-/
import Mathlib.Algebra.Group.Nat.Defs
import Mathlib.Data.List.Induction
import StaticSite.Text.Quoted

namespace StaticSite.Number

variable {base : Nat}

theorem digitValue_digitChar {d : Nat} (hd : d < 16) : digitValue d.digitChar = some d := by
  have hall : ∀ d : Fin 16, digitValue (Nat.digitChar d) = some d.val := by decide
  exact hall ⟨d, hd⟩

theorem isAlphanum_digitChar {d : Nat} (hd : d < 16) : d.digitChar.isAlphanum = true := by
  have hall : ∀ d : Fin 16, (Nat.digitChar d).isAlphanum = true := by decide
  exact hall ⟨d, hd⟩

theorem readDigitsFrom_append (acc : Nat) (s t : List Char) :
    readDigitsFrom base acc (s ++ t) =
      (readDigitsFrom base acc s).bind (readDigitsFrom base · t) := by
  induction s generalizing acc with
  | nil => rfl
  | cons c s ih =>
    rw [List.cons_append, readDigitsFrom, readDigitsFrom]
    split
    · split
      · exact ih _
      · rfl
    · rfl

theorem readDigitsFrom_toDigits (hlow : 1 < base) (hhigh : base ≤ 16) (n : Nat) :
    readDigitsFrom base 0 (Nat.toDigits base n) = some n := by
  have hsingle : ∀ acc d, d < base →
      readDigitsFrom base acc [d.digitChar] = some (acc * base + d) := by
    intro acc d hd
    simp [readDigitsFrom, digitValue_digitChar (Nat.lt_of_lt_of_le hd hhigh), hd]
  induction n using Nat.strongRecOn with
  | ind n ih =>
    rw [Nat.toDigits_eq_if hlow]
    split
    · rename_i hn
      rw [hsingle 0 n hn, Nat.zero_mul, Nat.zero_add]
    · rename_i hn
      have hless : n / base < n := Nat.div_lt_self (by omega) hlow
      rw [readDigitsFrom_append, ih _ hless, Option.bind_some,
        hsingle _ _ (Nat.mod_lt n (by omega)), Nat.div_add_mod']

theorem readDigitsFrom_zeros (hbase : 0 < base) (count : Nat) (s : List Char) :
    readDigitsFrom base 0 (List.replicate count '0' ++ s) = readDigitsFrom base 0 s := by
  have hzero : digitValue '0' = some 0 := by decide
  induction count with
  | zero => rfl
  | succ count ih => simp [List.replicate_succ, readDigitsFrom, hzero, hbase, ih]

theorem readNat?_toDigits (hlow : 1 < base) (hhigh : base ≤ 16) (n : Nat) :
    readNat? base (Nat.toDigits base n) = some n := by
  rw [readNat?, List.isEmpty_eq_false_iff.mpr Nat.toDigits_ne_nil, readDigitsFrom_toDigits hlow hhigh]
  rfl

theorem isAlphanum_of_mem_toDigits (hlow : 1 < base) (hhigh : base ≤ 16) {n : Nat} {c : Char}
    (h : c ∈ Nat.toDigits base n) : c.isAlphanum = true := by
  induction n using Nat.strongRecOn with
  | ind n ih =>
    rw [Nat.toDigits_eq_if hlow] at h
    split at h
    · rename_i hn
      rw [List.mem_singleton] at h
      exact h ▸ isAlphanum_digitChar (Nat.lt_of_lt_of_le hn hhigh)
    · rename_i hn
      have hless : n / base < n := Nat.div_lt_self (by omega) hlow
      rcases List.mem_append.mp h with hfront | hlast
      · exact ih _ hless hfront
      · rw [List.mem_singleton] at hlast
        have hdigit : n % base < 16 := Nat.lt_of_lt_of_le (Nat.mod_lt n (by omega)) hhigh
        exact hlast ▸ isAlphanum_digitChar hdigit

/-! ## Decimal digits -/

theorem isDigit_eq (c : Char) : isDigit c = c.isDigit := by
  simp [isDigit, Char.isDigit, Char.le_def]

theorem isAlphanum_of_isDigit {c : Char} (hc : isDigit c = true) : c.isAlphanum = true := by
  rw [Char.isAlphanum, ← isDigit_eq, hc, Bool.or_true]

theorem toNat_of_isDigit {c : Char} (hc : isDigit c = true) : 48 ≤ c.toNat ∧ c.toNat ≤ 57 := by
  rw [isDigit, Bool.and_eq_true, decide_eq_true_eq, decide_eq_true_eq] at hc
  exact hc

theorem isDigit_of_mem_natText {c : Char} {n : Nat} (h : c ∈ natText n) : isDigit c = true :=
  (isDigit_eq c).trans (Nat.isDigit_of_mem_toDigits (by decide) (by decide) h)

theorem natText_ne_nil (n : Nat) : natText n ≠ [] :=
  Nat.toDigits_ne_nil

theorem exists_digitChar_of_isDigit {c : Char} (hc : isDigit c = true) :
    ∃ d < 10, c = d.digitChar ∧ digitValue c = some d := by
  have hall : ∀ d : Fin 10, Char.ofNat (48 + d) = Nat.digitChar d := by decide
  have hrange := toNat_of_isDigit hc
  have hless : c.toNat - 48 < 10 := by omega
  have hchar : c = (c.toNat - 48).digitChar := by
    rw [← hall ⟨_, hless⟩, Nat.add_sub_cancel' hrange.1, Char.ofNat_toNat]
  refine ⟨_, hless, hchar, ?_⟩
  rw [hchar]
  exact (digitValue_digitChar (by omega)).trans (by rw [← hchar])

theorem readDigitsFrom_of_digits {s : List Char} (hs : ∀ c ∈ s, isDigit c = true) (acc : Nat) :
    ∃ n, readDigitsFrom 10 acc s = some n := by
  induction s generalizing acc with
  | nil => exact ⟨acc, rfl⟩
  | cons c s ih =>
    rw [List.forall_mem_cons] at hs
    obtain ⟨d, hd, -, hvalue⟩ := exists_digitChar_of_isDigit hs.1
    obtain ⟨n, hn⟩ := ih hs.2 (acc * 10 + d)
    exact ⟨n, by simp only [readDigitsFrom, hvalue, hd, if_true, hn]⟩

theorem readNat?_of_digits {s : List Char} (hs : ∀ c ∈ s, isDigit c = true) (hne : s ≠ []) :
    ∃ n, readNat? 10 s = some n := by
  rw [readNat?, List.isEmpty_eq_false_iff.mpr hne]
  exact readDigitsFrom_of_digits hs 0

/-- Is there a zero in front of other digits? -/
def hasLeadingZero : List Char → Bool
  | '0' :: _ :: _ => true
  | _ => false

theorem hasLeadingZero_append_singleton {s : List Char} (hs : s ≠ []) (c : Char) :
    hasLeadingZero (s ++ [c]) = decide (s.head? = some '0') := by
  obtain ⟨a, t, rfl⟩ := List.exists_cons_of_ne_nil hs
  obtain ⟨b, u, hbu⟩ := List.exists_cons_of_ne_nil (List.append_ne_nil_of_right_ne_nil t
    (List.cons_ne_nil c []))
  rw [List.cons_append, hbu]
  by_cases ha : a = '0'
  · simp [ha, hasLeadingZero]
  · simp [ha, hasLeadingZero]

theorem head?_natText_of_pos {n : Nat} (hn : 0 < n) : (natText n).head? ≠ some '0' := by
  induction n using Nat.strongRecOn with
  | ind n ih =>
    rw [natText, Nat.toDigits_eq_if (by decide)]
    split
    · rename_i hless
      have hall : ∀ d : Fin 10, 0 < d.val → Nat.digitChar d ≠ '0' := by decide
      simpa using hall ⟨n, hless⟩ hn
    · rename_i hnot
      rw [List.head?_append, List.head?_eq_some_head Nat.toDigits_ne_nil, Option.some_or,
        ← List.head?_eq_some_head Nat.toDigits_ne_nil]
      exact ih _ (Nat.div_lt_self hn (by decide)) (by omega)

/-- No numeral has a zero in front of other digits. -/
theorem hasLeadingZero_natText (n : Nat) : hasLeadingZero (natText n) = false := by
  rw [natText, Nat.toDigits_eq_if (by decide)]
  split
  · unfold hasLeadingZero
    split
    · rename_i heq
      exact absurd (List.cons.inj heq).2 (List.cons_ne_nil _ _).symm
    · rfl
  · rename_i hnot
    rw [hasLeadingZero_append_singleton Nat.toDigits_ne_nil, decide_eq_false_iff_not]
    exact head?_natText_of_pos (by omega)

/-- Digits with no zero in front are the numeral of the number that they are read as. -/
theorem natText_of_readNat? {s : List Char} {n : Nat} (hs : ∀ c ∈ s, isDigit c = true)
    (hzero : hasLeadingZero s = false) (hn : readNat? 10 s = some n) : natText n = s := by
  have hne : s ≠ [] := by
    rintro rfl
    cases hn
  rw [readNat?, List.isEmpty_eq_false_iff.mpr hne, if_neg Bool.false_ne_true] at hn
  induction s using List.reverseRecOn generalizing n with
  | nil => exact absurd rfl hne
  | append_singleton s c ih =>
    rw [List.forall_mem_append] at hs
    obtain ⟨d, hd, hc, hvalue⟩ := exists_digitChar_of_isDigit (hs.2 c (List.mem_singleton_self c))
    obtain ⟨high, hhigh⟩ := readDigitsFrom_of_digits hs.1 0
    have hsum : high * 10 + d = n := by
      rw [readDigitsFrom_append, hhigh, Option.bind_some] at hn
      simpa [readDigitsFrom, hvalue, hd] using hn
    rw [natText, Nat.toDigits_eq_if (by decide), ← hsum]
    by_cases hnil : s = []
    · subst hnil
      cases hhigh
      simp [hd, hc]
    · -- The digits before the last one make a positive number, as they start with no zero.
      rw [hasLeadingZero_append_singleton hnil, decide_eq_false_iff_not] at hzero
      have hfront : hasLeadingZero s = false := by
        obtain ⟨a, t, rfl⟩ := List.exists_cons_of_ne_nil hnil
        unfold hasLeadingZero
        split
        · simp_all
        · rfl
      have htext := ih hs.1 hfront hhigh hnil
      have hpos : 0 < high := by
        refine Nat.pos_of_ne_zero ?_
        rintro rfl
        rw [← htext] at hzero
        exact hzero rfl
      rw [if_neg (by omega), show (high * 10 + d) / 10 = high by omega,
        show (high * 10 + d) % 10 = d by omega, hc]
      exact congrArg (· ++ [d.digitChar]) htext

/-! ## Hexadecimal numerals of a width -/

variable {width n : Nat}

theorem length_hexText (hwidth : 0 < width) (h : n < 16 ^ width) :
    (Text.hexText width n).length = width := by
  have hdigits := (Nat.length_toDigits_le_iff (by decide) hwidth).mpr h
  simp [Text.hexText, Nat.sub_add_cancel hdigits]

theorem readNat?_hexText (width n : Nat) : readNat? 16 (Text.hexText width n) = some n := by
  rw [readNat?, Text.hexText, readDigitsFrom_zeros (by decide),
    readDigitsFrom_toDigits (by decide) (by decide)]
  simp

theorem isAlphanum_of_mem_hexText {c : Char} (h : c ∈ Text.hexText width n) :
    c.isAlphanum = true := by
  rcases List.mem_append.mp h with hzero | hdigit
  · rw [List.eq_of_mem_replicate hzero]
    decide
  · exact isAlphanum_of_mem_toDigits (by decide) (by decide) hdigit

end StaticSite.Number
