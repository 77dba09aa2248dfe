/-
StaticSite.Files.FileSystem — files and directories, and what is done with them.

Every file and directory has a location, the list of names from the root
of the system. There are no links: a location holds a file or a directory
and nothing else, no location leads to another one, and so what is written
at one location is not seen at a second one. Paths are followed name by
name, so that two dots lead out of a directory that has to exist. Each operation either changes the
system or gives the cause of its failure. Two may do part of their work
before they fail: creating a directory with its ancestors, and deleting one
with what is in it.
-/
import StaticSite.Files.Path
import StaticSite.Number.Digits
import StaticSite.Text.Utf8

namespace StaticSite

/-! ## 1. The system -/

/-- The names from the root of the system. -/
abbrev Location := List String

/-- Who has a right to a file: its owner writes and reads it, all others read it or do not. -/
inductive Rights where
  | everyone
  | ownerOnly
  deriving DecidableEq, Repr

/-- The octal digits of the rights. -/
def Rights.mode : Rights → Nat
  | .everyone => 644
  | .ownerOnly => 600

/-- What a location holds. Everyone can read a file, if nothing else is said. -/
inductive Entry where
  | file (bytes : ByteArray) (rights : Rights := .everyone)
  | directory

/-- Why an operation on files fails. -/
inductive FileError where
  | notFound
  | isDirectory
  | notDirectory
  | nameTooLong
  | alreadyExists
  | busy
  | notEmpty
  /-- A single dot names no directory that could be taken out of another one. -/
  | invalidArgument
  /-- A part of the path holds the character zero, which no name can. -/
  | invalidPath
  deriving DecidableEq, Repr

/-- The usual wording of a cause. -/
def FileError.reason : FileError → String
  | .notFound => "No such file or directory"
  | .isDirectory => "Is a directory"
  | .notDirectory => "Not a directory"
  | .nameTooLong => "File name too long"
  | .alreadyExists => "File exists"
  | .busy => "Device or resource busy"
  | .notEmpty => "Directory not empty"
  | .invalidArgument => "Invalid argument"
  | .invalidPath => "Invalid path"

/-- The entries by location, and the location that relative paths start from. The directories
down to a standing one are there even without an entry. Paths can start from a location that is
there no more, as an empty directory that only they can still reach. -/
structure FileSystem where
  entries : List (Location × Entry)
  here : Location
  standing : Location

namespace FileSystem

/-- The system without files, as it is seen from a directory. -/
def empty (here : Location) : FileSystem :=
  ⟨[], here, here⟩

/-! ## 2. Looking up -/

/-- The entry of a location in a list of entries. -/
def lookup (l : Location) : List (Location × Entry) → Option Entry
  | [] => none
  | (k, e) :: rest => if k = l then some e else lookup l rest

/-- The location of a directory that is there no more. No names lead to it. -/
def nowhere : Location :=
  [""]

/-- Has the directory that relative paths start from been taken away? -/
def isAdrift (fs : FileSystem) : Bool :=
  fs.standing != fs.here

/-- What a location holds, if it holds anything. -/
def get? (fs : FileSystem) (l : Location) : Option Entry :=
  if l.isPrefixOf fs.standing || (fs.isAdrift && l == nowhere) then some .directory
  else lookup l fs.entries

/-- The directory above a location. The one above a directory that is there no more is still the
same. -/
def above (fs : FileSystem) (l : Location) : Location :=
  if l == nowhere then fs.here.dropLast else l.dropLast

/-- The longest name in bytes. -/
def maxName : Nat := 255

/-- The longest text of a path in bytes. -/
def maxPath : Nat := 4095

/-- Follows names from a directory. The last name need not exist. -/
def walk (fs : FileSystem) (l : Location) : List String → Except FileError Location
  | [] => .ok l
  | name :: rest =>
    match fs.get? l with
    | none => .error .notFound
    | some (.file _ _) => .error .notDirectory
    | some .directory =>
      if name == ".." then walk fs (fs.above l) rest
      else if l == nowhere then .error .notFound
      else if maxName < name.utf8ByteSize then .error .nameTooLong
      else walk fs (l ++ [name]) rest

/-- The location that relative paths start from, or the root of the system. -/
def startOf (fs : FileSystem) (p : Path) : Location :=
  if p.isAbsolute then [] else if fs.isAdrift then nowhere else fs.here

/-- The location that a path leads to. -/
def resolve (fs : FileSystem) (p : Path) : Except FileError Location :=
  if !p.isValid then .error .invalidPath
  else if maxPath < p.text.utf8ByteSize then .error .nameTooLong
  else fs.walk (fs.startOf p) p.parts

/-- What a path leads to. -/
def stat (fs : FileSystem) (p : Path) : Except FileError Entry :=
  match fs.resolve p with
  | .error e => .error e
  | .ok l =>
    match fs.get? l with
    | none => .error .notFound
    | some entry => .ok entry

/-- Does the path lead to a directory? -/
def isDirectory (fs : FileSystem) (p : Path) : Bool :=
  match fs.stat p with
  | .ok .directory => true
  | _ => false

/-- The bytes of the file that a path leads to. -/
def readBytes (fs : FileSystem) (p : Path) : Except FileError ByteArray :=
  match fs.stat p with
  | .error e => .error e
  | .ok .directory => .error .isDirectory
  | .ok (.file bytes _) => .ok bytes

/-! ## 3. Changing -/

/-- The entries with one put at a location: in the place of the entry there, or at the end. -/
def putEntry (l : Location) (e : Entry) : List (Location × Entry) → List (Location × Entry)
  | [] => [(l, e)]
  | (k, old) :: rest => if k = l then (l, e) :: rest else (k, old) :: putEntry l e rest

/-- The system with an entry put at a location. -/
def put (fs : FileSystem) (l : Location) (e : Entry) : FileSystem :=
  { fs with entries := putEntry l e fs.entries }

/-- The system without a location and all that lies below it. -/
def remove (fs : FileSystem) (l : Location) : FileSystem :=
  { fs with
    entries := fs.entries.filter fun (k, _) => !l.isPrefixOf k
    standing := if l.isPrefixOf fs.standing then l.dropLast else fs.standing }

/-- Creates one directory. Its parent exists, as the path could be followed that far. -/
def makeDirectory (fs : FileSystem) (p : Path) : Except FileError FileSystem :=
  match fs.resolve p with
  | .error e => .error e
  | .ok l =>
    match fs.get? l with
    | some _ => .error .alreadyExists
    | none => .ok (fs.put l .directory)

/-- Creates a directory with those of its ancestors that are missing; the first argument
bounds their number. A directory that exists is left as it is. -/
def makeDirectoriesUpTo : Nat → FileSystem → Path → FileSystem × Option FileError
  | bound, fs, p =>
    match fs.makeDirectory p with
    | .ok fs => (fs, none)
    | .error .notFound =>
      match bound with
      | 0 => (fs, some .notFound)
      | bound + 1 =>
        match makeDirectoriesUpTo bound fs p.parent with
        | (fs, some e) => (fs, some e)
        | (fs, none) =>
          match fs.makeDirectory p with
          | .ok fs => (fs, none)
          | .error .notFound => (fs, some .notFound)
          | .error e => if fs.isDirectory p then (fs, none) else (fs, some e)
    | .error e => if fs.isDirectory p then (fs, none) else (fs, some e)

/-- Creates a directory with those of its ancestors that are missing. -/
def makeDirectories (fs : FileSystem) (p : Path) : FileSystem × Option FileError :=
  makeDirectoriesUpTo p.parts.length fs p

/-! ## 4. Writing -/

/-- Follows names from a location on paper: two dots take the last name off, whether or
not there is such a directory. -/
def lexicalWalk (l : Location) : List String → Location
  | [] => l
  | name :: rest =>
    if name == ".." then lexicalWalk l.dropLast rest else lexicalWalk (l ++ [name]) rest

/-- Checks that a location is one of a directory. -/
def checkDirectory (fs : FileSystem) (l : Location) : Except FileError Unit :=
  match fs.get? l with
  | none => .error .notFound
  | some (.file _ _) => .error .notDirectory
  | some .directory => .ok ()

/-- What a file needs beyond its own name while it is being written: a dot and a dash, eight
characters to tell it apart, and the ending `.tmp`. -/
def temporaryNameExtra : Nat := 14

/-- The directory for the temporary file of a path, the one that the path names on paper. The
name of the temporary file has to fit as well. -/
def temporaryDirectory (fs : FileSystem) (p : Path) : Except FileError Location :=
  let directory := lexicalWalk (fs.startOf p) p.parent.parts
  let nameSize := p.name.utf8ByteSize + temporaryNameExtra
  if !p.isValid then .error .invalidPath
  else if fs.startOf p == nowhere then .error .notFound
  else if maxPath < (Path.mk .absolute directory).text.utf8ByteSize + 1 + nameSize then
    .error .nameTooLong
  else
    match fs.walk [] directory with
    | .error e => .error e
    | .ok l =>
      match fs.checkDirectory l with
      | .error e => .error e
      | .ok () => if maxName < nameSize then .error .nameTooLong else .ok l

/-- The name of a temporary file for a name, with a number to tell it apart. -/
def temporaryName (name : String) (n : Nat) : String :=
  "." ++ name ++ "-" ++ String.ofList (Number.paddedText 8 n) ++ ".tmp"

/-- A place in a directory, for the temporary file of a name, where there is nothing. More
numbers are tried than there are entries. -/
def freePlace? (fs : FileSystem) (directory : Location) (name : String) : Option Location :=
  ((List.range (fs.entries.length + 2)).map fun n => directory ++ [temporaryName name n]).find?
    fun l => (fs.get? l).isNone

/-- Creates the temporary file of a path, without content and for its owner only. The location
says where it is. -/
def createTemporary (fs : FileSystem) (p : Path) : Except FileError (FileSystem × Location) :=
  match fs.temporaryDirectory p with
  | .error e => .error e
  | .ok directory =>
    match fs.freePlace? directory p.name with
    | none => .error .alreadyExists
    | some l => .ok (fs.put l (.file .empty .ownerOnly), l)

/-- The system with other bytes in the file at a location, whose rights stay. -/
def setBytes (fs : FileSystem) (l : Location) (bytes : ByteArray) : FileSystem :=
  match fs.get? l with
  | some (.file _ rights) => fs.put l (.file bytes rights)
  | _ => fs

/-- The system with other rights to the file at a location, whose bytes stay. -/
def setRights (fs : FileSystem) (l : Location) (rights : Rights) : FileSystem :=
  match fs.get? l with
  | some (.file bytes _) => fs.put l (.file bytes rights)
  | _ => fs

/-- The place that a path names for a file. Nothing can take the place of a directory, and
the last part has to be a name. -/
def destination (fs : FileSystem) (p : Path) : Except FileError Location :=
  if maxPath < p.text.utf8ByteSize then .error .nameTooLong
  else
    match fs.resolve p.parent with
    | .error e => .error e
    | .ok directory =>
      match fs.checkDirectory directory with
      | .error e => .error e
      | .ok () =>
        if p.name == "" || p.name == ".." then .error .busy
        else if directory == nowhere then .error .notFound
        else
          match fs.get? (directory ++ [p.name]) with
          | some .directory => .error .isDirectory
          | _ => .ok (directory ++ [p.name])

/-- The system without the file at a location. -/
def unlink (fs : FileSystem) (l : Location) : FileSystem :=
  { fs with entries := fs.entries.filter fun (k, _) => k != l }

/-- Moves a file to the place that a path names. -/
def rename (fs : FileSystem) (l : Location) (p : Path) : Except FileError FileSystem :=
  match fs.destination p with
  | .error e => .error e
  | .ok target =>
    match fs.get? l with
    | none => .error .notFound
    | some entry => .ok ((fs.unlink l).put target entry)

/-- Writes a file all or nothing: the bytes go to a temporary file beside it, which is opened to
everyone and then takes its place. When it cannot, it is taken away again. -/
def writeAtomic (fs : FileSystem) (p : Path) (bytes : ByteArray) :
    FileSystem × Option FileError :=
  match fs.createTemporary p with
  | .error e => (fs, some e)
  | .ok (created, temporary) =>
    let written := (created.setBytes temporary bytes).setRights temporary .everyone
    match written.rename temporary p with
    | .error e => (written.unlink temporary, some e)
    | .ok renamed => (renamed, none)

/-- Writes a file in place, with the missing directories above it. The rights to a file that is
there already stay. -/
def writePlain (fs : FileSystem) (p : Path) (bytes : ByteArray) :
    FileSystem × Option FileError :=
  match fs.makeDirectories p.parent with
  | (fs, some e) => (fs, some e)
  | (fs, none) =>
    match fs.resolve p with
    | .error e => (fs, some e)
    | .ok l =>
      match fs.get? l with
      | some .directory => (fs, some .isDirectory)
      | some (.file _ rights) => (fs.put l (.file bytes rights), none)
      | none => (fs.put l (.file bytes), none)

/-! ## 5. Deleting -/

/-- The system without what lies below a location. -/
def clear (fs : FileSystem) (l : Location) : FileSystem :=
  { fs with
    entries := fs.entries.filter fun (k, _) => !l.isPrefixOf k || k == l
    standing := if l.isPrefixOf fs.standing then l else fs.standing }

/-- Takes a directory with nothing in it out of the one above it. The path has to end in a
name. -/
def removeDirectory (fs : FileSystem) (p : Path) : Except FileError FileSystem :=
  match fs.resolve p with
  | .error e => .error e
  | .ok l =>
    if p.name == "" then .error .invalidArgument
    else if p.name == ".." then .error .notEmpty
    else .ok (fs.remove l)

/-- Deletes a file, or a directory with all that is in it. The path is followed once more when
the directory has been emptied, and may be broken by then. -/
def delete (fs : FileSystem) (p : Path) : FileSystem × Option FileError :=
  match fs.resolve p with
  | .error e => (fs, some e)
  | .ok l =>
    match fs.get? l with
    | none => (fs, some .notFound)
    | some (.file _ _) => (fs.remove l, none)
    | some .directory =>
      let emptied := fs.clear l
      match emptied.removeDirectory p with
      | .error e => (emptied, some e)
      | .ok fs => (fs, none)

/-! ## 6. Modes -/

/-- Does the text of a path ask for a directory, with a slash or a single dot at its end? -/
def asksDirectory (text : String) : Bool :=
  let last := (Text.splitOn (· == '/') text.toList).getLast?.getD []
  last.isEmpty || last == ['.']

/-- The permissions of what the text of a path leads to. -/
def mode (fs : FileSystem) (text : String) : Except FileError Nat :=
  if text.isEmpty then .error .notFound
  else
    match fs.stat (.ofText text) with
    | .error e => .error e
    | .ok .directory => .ok 755
    | .ok (.file _ rights) =>
      if asksDirectory text then .error .notDirectory else .ok rights.mode

end FileSystem

end StaticSite
