/-
StaticSite.Files.DataFile — values read from files.

A data file is looked for first, then read as text, then as a document. One
whose path or name is too long cannot even be looked for.
-/
import StaticSite.Files.Stylesheet
import StaticSite.Yaml.Load

namespace StaticSite

/-- Why a data file gives no value. -/
inductive DataError where
  | missing (path : Path)
  | unreadable (cause : FileError)
  | notText
  | document (e : Yaml.Error)
  deriving DecidableEq, Repr

/-- Why something cannot be loaded: the file gives no value, or not the right one. -/
inductive LoadError (ε : Type) where
  | file (e : DataError)
  | content (e : ε)
  deriving DecidableEq, Repr

/-- The value that a data file spells. -/
def FileSystem.readData (fs : FileSystem) (p : Path) : Except DataError Value :=
  match fs.stat p with
  | .error .nameTooLong => .error (.unreadable .nameTooLong)
  | .error _ => .error (.missing p)
  | .ok _ =>
    match fs.readBytes p with
    | .error e => .error (.unreadable e)
    | .ok bytes =>
      match textOf? bytes with
      | none => .error .notText
      | some text =>
        match Yaml.load text.toList with
        | .error e => .error (.document e)
        | .ok v => .ok v

/-- What a data file holds, where a function reads its value. -/
def FileSystem.loadData {ε α : Type} (fs : FileSystem) (ofValue : Value → Except ε α) (p : Path) :
    Except (LoadError ε) α :=
  match fs.readData p with
  | .error e => .error (.file e)
  | .ok v =>
    match ofValue v with
    | .error e => .error (.content e)
    | .ok a => .ok a

end StaticSite
