/-
StaticSite.Text.Blank — blank characters and trimming.

A blank character is one with the Unicode property White_Space, or one
of the four information separators U+001C to U+001F. `strip` takes the
blank characters off both ends of a text; what is left does not start
with one (`head?_dropBlank`).
-/

namespace StaticSite.Text

/-! ## 1. The class -/

/-- White space of Unicode and the information separators. -/
def isBlank (c : Char) : Bool :=
  let n := c.toNat
  (9 ≤ n && n ≤ 13) || (28 ≤ n && n ≤ 32) || n == 0x85 || n == 0xA0 || n == 0x1680 ||
    (0x2000 ≤ n && n ≤ 0x200A) || n == 0x2028 || n == 0x2029 || n == 0x202F ||
    n == 0x205F || n == 0x3000

/-! ## 2. Trimming lists of characters -/

/-- The text without its leading blank characters. -/
def dropBlank (s : List Char) : List Char :=
  s.dropWhile isBlank

/-- The text without the characters of a class at its end. -/
def dropEndWhile (p : Char → Bool) (s : List Char) : List Char :=
  (s.reverse.dropWhile p).reverse

/-- The text without its trailing blank characters. -/
def dropEndBlank (s : List Char) : List Char :=
  dropEndWhile isBlank s

/-- The text without the blank characters at its two ends. -/
def trim (s : List Char) : List Char :=
  dropEndBlank (dropBlank s)

/-- Nothing but blank characters. -/
def allBlank (s : List Char) : Bool :=
  s.all isBlank

/-! ## 3. Trimming strings -/

/-- The text without the blank characters at its two ends. -/
def strip (s : String) : String :=
  String.ofList (trim s.toList)

/-- The text without the slashes at its end. -/
def stripTrailingSlashes (s : String) : String :=
  String.ofList (dropEndWhile (· == '/') s.toList)

/-! ## 4. Small facts -/

theorem head?_dropBlank (s : List Char) {c : Char} (h : (dropBlank s).head? = some c) :
    isBlank c = false := by
  induction s with
  | nil => simp [dropBlank] at h
  | cons a s ih =>
    by_cases ha : isBlank a = true
    · exact ih (by simpa [dropBlank, List.dropWhile_cons, ha] using h)
    · simp only [dropBlank, List.dropWhile_cons, ha, Bool.false_eq_true, if_false,
        List.head?_cons, Option.some.injEq] at h
      subst h
      simpa using ha

end StaticSite.Text
