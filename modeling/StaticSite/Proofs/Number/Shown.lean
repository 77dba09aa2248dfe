/-
StaticSite.Proofs.Number.Shown — the texts that numbers are shown by.

An integer can be shown if it has no more digits than the limit
(`isWritable_iff`). A number of 64 bits always can. Neither text is empty or
has a blank character (`isGraphic_of_mem_natText`, `isGraphic_text`).
-/
import StaticSite.Number.Binary64
import StaticSite.Number.Numeral
import StaticSite.Proofs.Number.Digits
import StaticSite.Proofs.Text.Strip

namespace StaticSite.Number

open StaticSite.Text

/-! ## 1. Integers -/

theorem isGraphic_of_mem_natText {n : Nat} {c : Char} (hc : c ∈ natText n) : IsGraphic c := by
  have hrange := toNat_of_isDigit (isDigit_of_mem_natText hc)
  rw [IsGraphic]
  omega

theorem isGraphic_of_mem_zeros {count : Nat} {c : Char} (hc : c ∈ List.replicate count '0') :
    IsGraphic c := by
  rw [List.eq_of_mem_replicate hc]
  decide

theorem isWritable_iff (n : Nat) :
    isWritable n = true ↔ (natText n).length ≤ maxDigits := by
  rw [isWritable, Int.natAbs_natCast, decide_eq_true_eq, Nat.pow_eq, natText,
    Nat.length_toDigits_le_iff (by decide) (by decide)]

/-! ## 2. Numbers of 64 bits -/

namespace Binary64

theorem isGraphic_placePoint {digits : List Char} (hdigits : ∀ c ∈ digits, IsGraphic c)
    (point : Int) : ∀ c ∈ placePoint digits point, IsGraphic c := by
  have htake : ∀ k, ∀ c ∈ digits.take k, IsGraphic c :=
    fun k c hc => hdigits c (List.mem_of_mem_take hc)
  have hdrop : ∀ k, ∀ c ∈ digits.drop k, IsGraphic c :=
    fun k c hc => hdigits c (List.mem_of_mem_drop hc)
  unfold placePoint
  split
  · split
    · simp only [List.forall_mem_cons]
      exact ⟨by decide, by decide, hdigits⟩
    · simp only [List.forall_mem_append, List.forall_mem_cons]
      refine ⟨⟨htake _, fun c hc => isGraphic_of_mem_zeros hc⟩, by decide, ?_⟩
      split
      · exact List.forall_mem_singleton.mpr (by decide)
      · exact hdrop _
    · simp only [List.forall_mem_append, List.forall_mem_cons]
      exact ⟨by decide, by decide, fun c hc => isGraphic_of_mem_zeros hc, hdigits⟩
  · simp only [List.forall_mem_append, List.forall_mem_cons, paddedText]
    refine ⟨⟨htake _, ?_⟩, by decide, ?_, fun c hc => isGraphic_of_mem_zeros hc,
      fun c hc => isGraphic_of_mem_natText hc⟩
    · split
      · exact List.forall_mem_nil _
      · exact List.forall_mem_cons.mpr ⟨by decide, hdrop _⟩
    · split <;> decide

theorem isGraphic_text (x : Binary64) : ∀ c ∈ x.text, IsGraphic c := by
  have hsign : ∀ negative : Bool, ∀ c ∈ if negative then ['-'] else [], IsGraphic c := by
    intro negative
    cases negative with
    | true => exact List.forall_mem_singleton.mpr (by decide)
    | false => exact List.forall_mem_nil _
  have hword : ∀ word : String, word.toList.all (fun c => decide (IsGraphic c)) = true →
      ∀ c ∈ word.toList, IsGraphic c := by
    intro word hword c hc
    exact of_decide_eq_true (List.all_eq_true.mp hword c hc)
  cases x with
  | nan => exact hword "nan" (by decide)
  | infinite negative =>
    cases negative with
    | true => exact hword "-inf" (by decide)
    | false => exact hword "inf" (by decide)
  | finite negative m e =>
    unfold text
    dsimp only
    split
    · exact List.forall_mem_append.mpr ⟨hsign _, hword "0.0" (by decide)⟩
    · refine List.forall_mem_append.mpr ⟨hsign _, isGraphic_placePoint (fun c hc => ?_) _⟩
      have hmem := (List.dropWhile_sublist _).mem (List.mem_reverse.mp hc)
      exact isGraphic_of_mem_natText (List.mem_reverse.mp hmem)

theorem placePoint_ne_nil (digits : List Char) (point : Int) :
    placePoint digits point ≠ [] := by
  unfold placePoint
  split
  · split <;> simp
  · simp

theorem text_ne_nil (x : Binary64) : x.text ≠ [] := by
  cases x with
  | nan => exact List.cons_ne_nil _ _
  | infinite negative => cases negative <;> exact List.cons_ne_nil _ _
  | finite negative m e =>
    unfold text
    dsimp only
    split
    · exact List.append_ne_nil_of_right_ne_nil _ (List.cons_ne_nil _ _)
    · exact List.append_ne_nil_of_right_ne_nil _ (placePoint_ne_nil _ _)

end Binary64

end StaticSite.Number
