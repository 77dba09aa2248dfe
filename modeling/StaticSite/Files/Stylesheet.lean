/-
StaticSite.Files.Stylesheet — the stylesheet that the pages of a run share.

The text is read when it is first asked for and kept from then on; a
reading that fails leaves the stylesheet unread. Files that cannot be
read or written are reported as an unavailable resource with its path.
-/
import StaticSite.Files.FileSystem

namespace StaticSite

open StaticSite.Text

/-- A file that could not be read or written, and why. -/
structure Unavailable where
  path : Path
  cause : FileError
  deriving DecidableEq, Repr

/-- A stylesheet: its path, and its text once it has been read. -/
structure Stylesheet where
  path : Path
  cached : Option String

/-- Why a file could not be read or written: the file system refused, or the path cannot be
the path of a file. -/
inductive AccessError where
  | unavailable (resource : Unavailable)
  | invalidPath
  deriving DecidableEq, Repr

/-- The error with a path and a cause. -/
def AccessError.of (p : Path) : FileError → AccessError
  | .invalidPath => .invalidPath
  | cause => .unavailable ⟨p, cause⟩

/-- The file that could not be read or written, unless its path was at fault. -/
def AccessError.resource? : AccessError → Option Unavailable
  | .unavailable resource => some resource
  | .invalidPath => none

/-- Why a text file could not be read. -/
inductive ReadError where
  | access (e : AccessError)
  | notText
  deriving DecidableEq, Repr

/-- The text that bytes spell in text mode: well-formed UTF-8, every line end a line feed. -/
def textOf? (bytes : ByteArray) : Option String :=
  match decodeUtf8 bytes with
  | none => none
  | some s => some (String.ofList (unifyLineEnds s.toList))

/-- Reads a file in text mode. -/
def FileSystem.readText (fs : FileSystem) (p : Path) : Except ReadError String :=
  match fs.readBytes p with
  | .error e => .error (.access (.of p e))
  | .ok bytes =>
    match textOf? bytes with
    | none => .error .notText
    | some s => .ok s

/-- A stylesheet that has not been read. -/
def Stylesheet.unread (path : Path) : Stylesheet :=
  ⟨path, none⟩

/-- The text of a stylesheet, and the stylesheet afterwards. -/
def Stylesheet.text (sheet : Stylesheet) (fs : FileSystem) : Stylesheet × Except ReadError String :=
  match sheet.cached with
  | some s => (sheet, .ok s)
  | none =>
    match fs.readText sheet.path with
    | .error e => (sheet, .error e)
    | .ok s => (⟨sheet.path, some s⟩, .ok s)

end StaticSite
