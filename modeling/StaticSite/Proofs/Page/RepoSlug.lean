/-
StaticSite.Proofs.Page.RepoSlug — the owner and the name of a repository, read from its address.

The slashes at the end of an address count for nothing, and the slug is made
of the last two parts of what they leave. A list with at most one slash is
kept as it is (`lastParts_of_count_le`). Any other one has a slash with just
one more after it, and what follows this slash is kept (`lastParts_append`).
So the slug is the longest end with no more than one slash
(`isSlugOf_repoSlug`), and nothing else is (`IsSlugOf.unique`). A text is its
own slug just if no slash ends it and at most one stands in it
(`repoSlug_eq_self_iff`).
-/
import Mathlib.Data.List.Infix
import StaticSite.Pages.UserGuide
import StaticSite.Proofs.Text.Splitting
import StaticSite.Proofs.Text.Strip

namespace StaticSite.UserGuide

open StaticSite.Text

/-! ## 1. The last two parts -/

/-- The last two parts of a list between slashes, joined again. -/
def lastParts (s : List Char) : List Char :=
  let parts := splitOn (· == '/') s
  joinLists ['/'] (parts.drop (parts.length - 2))

theorem toList_repoSlug (url : String) :
    (repoSlug url).toList = lastParts (stripTrailingSlashes url).toList := by
  rw [repoSlug, stripTrailingSlashes, String.toList_ofList, String.toList_ofList, lastParts]

theorem joinLists_slashes (s : List Char) : joinLists ['/'] (splitOn (· == '/') s) = s :=
  joinLists_splitOn (fun _ => beq_iff_eq.mp) s

theorem length_slashes (s : List Char) :
    (splitOn (· == '/') s).length = s.count '/' + 1 :=
  length_splitOn _ s

theorem lastParts_of_count_le {s : List Char} (h : s.count '/' ≤ 1) : lastParts s = s := by
  have hfew : (splitOn (· == '/') s).length - 2 = 0 := by
    rw [length_slashes]
    omega
  rw [lastParts, hfew, List.drop_zero, joinLists_slashes]

theorem lastParts_append (front : List Char) {s : List Char} (h : s.count '/' = 1) :
    lastParts (front ++ '/' :: s) = s := by
  have hparts : splitOn (· == '/') (front ++ '/' :: s) =
      splitOn (· == '/') front ++ splitOn (· == '/') s :=
    splitOn_append_cons rfl front s
  have htwo : (splitOn (· == '/') s).length = 2 := by rw [length_slashes, h]
  rw [lastParts, hparts, List.length_append, htwo, Nat.add_sub_cancel, List.drop_left,
    joinLists_slashes]

/-- If there are several slashes, one of them has just one more after it. -/
theorem exists_append_of_one_lt_count {s : List Char} (h : 1 < s.count '/') :
    ∃ front rest, s = front ++ '/' :: rest ∧ rest.count '/' = 1 := by
  induction s with
  | nil => cases h
  | cons c s ih =>
    -- the first character is the slash that is looked for just if the rest has none such
    by_cases hmore : 1 < s.count '/'
    · obtain ⟨front, rest, rfl, hrest⟩ := ih hmore
      exact ⟨c :: front, rest, rfl, hrest⟩
    · rw [List.count_cons] at h
      have hc : c = '/' := by
        by_contra hne
        rw [if_neg (by simpa using hne)] at h
        omega
      subst hc
      rw [if_pos (beq_self_eq_true _)] at h
      exact ⟨[], s, rfl, by omega⟩

/-- Either nothing is left out, or something that ends in a slash. -/
theorem lastParts_cases (s : List Char) :
    (s.count '/' ≤ 1 ∧ lastParts s = s) ∨
      ∃ front, s = front ++ '/' :: lastParts s ∧ (lastParts s).count '/' = 1 := by
  by_cases hmore : 1 < s.count '/'
  · obtain ⟨front, rest, rfl, hrest⟩ := exists_append_of_one_lt_count hmore
    rw [lastParts_append front hrest]
    exact Or.inr ⟨front, rfl, hrest⟩
  · have hfew : s.count '/' ≤ 1 := by omega
    exact Or.inl ⟨hfew, lastParts_of_count_le hfew⟩

theorem lastParts_suffix (s : List Char) : lastParts s <:+ s := by
  obtain ⟨-, hsame⟩ | ⟨front, hs, -⟩ := lastParts_cases s
  · rw [hsame]
  · exact ⟨front ++ ['/'], by rw [List.append_assoc, List.singleton_append, ← hs]⟩

theorem count_lastParts_le (s : List Char) : (lastParts s).count '/' ≤ 1 := by
  obtain ⟨hfew, hsame⟩ | ⟨front, -, hone⟩ := lastParts_cases s
  · rw [hsame]
    exact hfew
  · exact Nat.le_of_eq hone

/-- No end with at most one slash reaches further back than the last two parts. -/
theorem suffix_lastParts {s t : List Char} (ht : t <:+ s) (hcount : t.count '/' ≤ 1) :
    t <:+ lastParts s := by
  obtain ⟨-, hsame⟩ | ⟨front, hs, hone⟩ := lastParts_cases s
  · rwa [hsame]
  · -- the slash before the two parts would be the second one
    have hend : '/' :: lastParts s <:+ s := ⟨front, hs.symm⟩
    have htwo : ('/' :: lastParts s).count '/' = 2 := by rw [List.count_cons_self, hone]
    have hnot : ¬ '/' :: lastParts s <:+ t := by
      intro hin
      have hle : ('/' :: lastParts s).count '/' ≤ t.count '/' := hin.sublist.count_le '/'
      omega
    have hwithin : t <:+ '/' :: lastParts s :=
      (List.suffix_or_suffix_of_suffix ht hend).resolve_right hnot
    obtain rfl | hrest := List.suffix_cons_iff.mp hwithin
    · exact absurd List.suffix_rfl hnot
    · exact hrest

/-! ## 2. Slugs -/

/-- Has a text no slash at its end and no more than one elsewhere? -/
structure IsSlug (slug : String) : Prop where
  noLastSlash : slug.toList.getLast? ≠ some '/'
  count_le : slug.toList.count '/' ≤ 1

/-- Is a text the longest end of an address that can be a slug, once the slashes at the end of the
address are taken off? -/
structure IsSlugOf (url slug : String) : Prop extends IsSlug slug where
  suffix : slug.toList <:+ (stripTrailingSlashes url).toList
  longest : ∀ s, s <:+ (stripTrailingSlashes url).toList → s.count '/' ≤ 1 → s <:+ slug.toList

theorem isSlugOf_repoSlug (url : String) : IsSlugOf url (repoSlug url) := by
  have hsuffix : (repoSlug url).toList <:+ (stripTrailingSlashes url).toList := by
    rw [toList_repoSlug]
    exact lastParts_suffix _
  refine ⟨⟨fun hlast => ?_, ?_⟩, hsuffix, fun s hs hcount => ?_⟩
  · -- a slash at the end of the slug would be one at the end of what the address is stripped to
    obtain ⟨front, hfront⟩ := hsuffix
    have hkept : (stripTrailingSlashes url).toList.getLast? = some '/' := by
      rw [← hfront, List.getLast?_append, hlast, Option.some_or]
    exact getLast?_stripTrailingSlashes url hkept
  · rw [toList_repoSlug]
    exact count_lastParts_le _
  · rw [toList_repoSlug]
    exact suffix_lastParts hs hcount

theorem IsSlugOf.unique {url slug other : String} (h : IsSlugOf url slug)
    (hother : IsSlugOf url other) : slug = other := by
  have hle : slug.toList <:+ other.toList := hother.longest _ h.suffix h.count_le
  have hge : other.toList <:+ slug.toList := h.longest _ hother.suffix hother.count_le
  exact String.toList_inj.mp (hle.eq_of_length_le hge.length_le)

theorem repoSlug_eq_iff {url slug : String} : repoSlug url = slug ↔ IsSlugOf url slug := by
  constructor
  · rintro rfl
    exact isSlugOf_repoSlug url
  · intro h
    exact (isSlugOf_repoSlug url).unique h

/-- Only what is a slug is its own slug. -/
theorem repoSlug_eq_self_iff {s : String} : repoSlug s = s ↔ IsSlug s := by
  rw [repoSlug_eq_iff]
  constructor
  · intro h
    exact h.toIsSlug
  · intro h
    have hstripped : stripTrailingSlashes s = s := stripTrailingSlashes_of_getLast? h.noLastSlash
    refine ⟨h, ?_, fun t ht _ => ?_⟩
    · rw [hstripped]
    · rwa [hstripped] at ht

/-! ## 3. What surrounds a slug -/

/-- A text with one slash, but not at its end, is the slug of every address that ends in it after
another slash. -/
theorem repoSlug_append (before : String) {slug : String} (hone : slug.toList.count '/' = 1)
    (hlast : slug.toList.getLast? ≠ some '/') (n : Nat) :
    repoSlug (before ++ "/" ++ slug ++ slashes n) = slug := by
  have haddress : (before ++ "/" ++ slug).toList = before.toList ++ '/' :: slug.toList := by
    rw [String.toList_append, String.toList_append, List.append_assoc]
    rfl
  have hne : slug.toList ≠ [] := by
    intro hnil
    rw [hnil] at hone
    cases hone
  have hkept : stripTrailingSlashes (before ++ "/" ++ slug) = before ++ "/" ++ slug := by
    refine stripTrailingSlashes_of_getLast? ?_
    rwa [haddress, List.getLast?_append_of_ne_nil _ (List.cons_ne_nil _ _),
      List.getLast?_cons_of_ne_nil hne]
  rw [← String.toList_inj, toList_repoSlug, stripTrailingSlashes_append, hkept, haddress,
    lastParts_append _ hone]

theorem count_ownerAndName {owner name : String} (howner : '/' ∉ owner.toList)
    (hname : '/' ∉ name.toList) : (owner ++ "/" ++ name).toList.count '/' = 1 := by
  rw [String.toList_append, String.toList_append, List.count_append, List.count_append,
    List.count_eq_zero.mpr howner, List.count_eq_zero.mpr hname]
  rfl

theorem getLast?_ownerAndName (owner : String) {name : String} (hne : name ≠ "")
    (hname : '/' ∉ name.toList) : (owner ++ "/" ++ name).toList.getLast? ≠ some '/' := by
  intro hlast
  have hchars : name.toList ≠ [] := by simpa using hne
  rw [String.toList_append, List.getLast?_append_of_ne_nil _ hchars] at hlast
  exact hname (List.mem_of_getLast? hlast)

/-- Whatever stands before the owner and the name of a repository, and however many slashes after
them, they are the slug of the address; the owner may even be empty. Any address at all has the
longest end as its slug that does not end in a slash and has one at most, not counting the slashes
at the end of the address, and the slug of a slug is the slug itself. -/
theorem repoSlug_ownerName :
    (∀ before owner name : String, ∀ n : Nat,
      name ≠ "" → '/' ∉ owner.toList → '/' ∉ name.toList →
        repoSlug (before ++ "/" ++ owner ++ "/" ++ name ++ slashes n) = owner ++ "/" ++ name) ∧
      ∀ url, IsSlugOf url (repoSlug url) ∧ repoSlug (repoSlug url) = repoSlug url := by
  refine ⟨fun before owner name n hne howner hname => ?_, fun url => ?_⟩
  · have haddress : before ++ "/" ++ owner ++ "/" ++ name =
        before ++ "/" ++ (owner ++ "/" ++ name) := by
      simp only [String.append_assoc]
    rw [haddress]
    exact repoSlug_append before (count_ownerAndName howner hname)
      (getLast?_ownerAndName owner hne hname) n
  · have hslug := isSlugOf_repoSlug url
    exact ⟨hslug, repoSlug_eq_self_iff.mpr hslug.toIsSlug⟩

theorem repoSlug_ownerName_doubledSlashes :
    "name" ≠ "" ∧ '/' ∉ "owner".toList ∧ '/' ∉ "name".toList ∧
      repoSlug ("https://example.org/" ++ "/" ++ "owner" ++ "/" ++ "name" ++ slashes 2) =
        "owner" ++ "/" ++ "name" ∧
      IsSlugOf "https://example.org//name/" (repoSlug "https://example.org//name/") ∧
      repoSlug "https://example.org//name/" = "/name" :=
  ⟨by decide, by decide, by decide,
    repoSlug_ownerName.1 "https://example.org/" "owner" "name" 2 (by decide) (by decide)
      (by decide),
    (repoSlug_ownerName.2 "https://example.org//name/").1, by decide⟩

example : repoSlug "///" = "" := by decide

example : repoSlug "name/" = "name" := by decide

end StaticSite.UserGuide
