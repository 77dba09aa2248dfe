/-
StaticSite.Text.Base64 — bytes written in an alphabet of sixty-four characters.

Four characters stand for three bytes. Characters outside the alphabet are
passed over. The signs that fill the last four up end the text, and a text
that ends inside four has to have them.
-/

namespace StaticSite.Text

/-- The value of a character of the alphabet. -/
def base64Value? (c : Char) : Option Nat :=
  if 'A' ≤ c && c ≤ 'Z' then some (c.toNat - 65)
  else if 'a' ≤ c && c ≤ 'z' then some (c.toNat - 71)
  else if '0' ≤ c && c ≤ '9' then some (c.toNat + 4)
  else if c == '+' then some 62
  else if c == '/' then some 63
  else none

/-- The byte that the bits left over and the next six make, where so many characters of the
four have been read. -/
def base64Byte (read left value : Nat) : UInt8 :=
  (left * Nat.pow 4 read + value / Nat.pow 4 (3 - read)).toUInt8

/-- The bits of a character that are left over for the next byte. -/
def base64Rest (read value : Nat) : Nat :=
  value % Nat.pow 4 (3 - read)

/-- Reads on, where so many characters of the four have been read, so many filling signs
stand before this, and some bits are left over. -/
def decodeBase64From (read filled left : Nat) : List Char → Option (List UInt8)
  | [] => if read == 0 then some [] else none
  | c :: s =>
    if c == '=' then
      if read < 2 then decodeBase64From read filled left s
      else if 4 ≤ read + filled + 1 then some []
      else decodeBase64From read (filled + 1) left s
    else
      match base64Value? c with
      | none => decodeBase64From read filled left s
      | some v =>
        if read == 0 then decodeBase64From 1 0 v s
        else
          (decodeBase64From ((read + 1) % 4) 0 (base64Rest read v) s).map
            (base64Byte read left v :: ·)

/-- The bytes that a text stands for, if it is complete. -/
def decodeBase64? (s : List Char) : Option (List UInt8) :=
  decodeBase64From 0 0 0 s

end StaticSite.Text
