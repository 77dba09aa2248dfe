/-
StaticSite.Text.Utf8 — texts and the bytes that they are stored as.

A byte sequence is a text when it is well-formed UTF-8. There is no
repair: one bad byte makes the whole file unreadable.

A program can hold texts that are no texts of characters: in a `RawText`,
half of a surrogate pair may stand by itself. UTF-8 has no bytes for one,
so that such a text cannot be stored.
-/

namespace StaticSite.Text

/-- The characters that the bytes encode, if they are well-formed UTF-8. -/
def decodeUtf8 (bytes : ByteArray) : Option String :=
  String.fromUTF8? bytes

/-- The bytes of a text. -/
def encodeUtf8 (text : String) : ByteArray :=
  text.toUTF8

/-- A point of a raw text: a character, or half of a surrogate pair, counted from U+D800 on. -/
inductive RawPoint where
  | char (c : Char)
  | half (n : Fin 2048)
  deriving DecidableEq, Repr

/-- A text that may hold halves of surrogate pairs. -/
structure RawText where
  points : List RawPoint
  deriving DecidableEq, Repr

namespace RawText

/-- A text of characters. -/
def ofString (s : String) : RawText :=
  ⟨s.toList.map .char⟩

instance : Append RawText :=
  ⟨fun s t => ⟨s.points ++ t.points⟩⟩

/-- The characters, if there is no half among them. -/
def chars? : List RawPoint → Option (List Char)
  | [] => some []
  | .char c :: rest => (chars? rest).map (c :: ·)
  | .half _ :: _ => none

/-- The bytes of a raw text, if it has any. -/
def encode? (text : RawText) : Option ByteArray :=
  (chars? text.points).map fun s => encodeUtf8 (String.ofList s)

/-! ## Small facts -/

end RawText

end StaticSite.Text
