/-
StaticSite.Main — the program.

The run itself works on a picture of the files. This layer takes the
picture of all the files that the run can touch, and afterwards does to the
real files what the run did to the picture.
-/
import StaticSite.CommandLine.Options
import StaticSite.CommandLine.Report

namespace StaticSite.Program

open StaticSite.CommandLine

/-! ## 1. The picture -/

/-- The text of a location. -/
def locationText (l : Location) : String :=
  (Path.mk .absolute l).text

/-- The locations that are passed on the way along names, starting in a directory. -/
def passed (l : Location) : List String → List Location
  | [] => []
  | name :: rest =>
    let next := if name == ".." then l.dropLast else l ++ [name]
    next :: passed next rest

/-- Adds what is at a location to the picture. -/
def look (fs : FileSystem) (l : Location) : IO FileSystem := do
  let place := (← IO.currentDir) / locationText l
  if ← place.isDir then return fs.put l .directory
  else if ← place.pathExists then return fs.put l (.file (← IO.FS.readBinFile place))
  else return fs

/-- Adds a path to the picture, with all that it passes. -/
def lookAlong (fs : FileSystem) (p : Path) : IO FileSystem :=
  (passed (fs.startOf p) p.parts).foldlM look fs

/-- The files that the pages of a site are written to. -/
def outputPaths (site : SiteConfig) : List Path :=
  registry.map fun page => site.outputPath page.frame.key page.frame.filename

/-- The picture for a request. -/
def picture (request : RunRequest) : IO FileSystem := do
  let here := Path.ofText (← IO.currentDir).toString
  let fs ← lookAlong (.empty here.parts) request.config
  match runSite fs request with
  | .error _ => return fs
  | .ok site =>
    (site.baseStylesheet :: site.releasesFile :: site.outputDir :: outputPaths site).foldlM
      lookAlong fs

/-- The picture for a command. Help is given without any files. -/
def pictureFor : Command → IO FileSystem
  | .help => return .empty []
  | .generate request => picture request

/-! ## 2. The real files -/

/-- Reading and writing for the owner, reading for all others. -/
def outputRights : IO.FileRight :=
  ⟨⟨true, true, false⟩, ⟨true, false, false⟩, ⟨true, false, false⟩⟩

/-- Puts a file at a location, all or nothing. -/
def putFile (l : Location) (bytes : ByteArray) : IO Unit := do
  let name := l.getLast?.getD ""
  let temporary := locationText (l.dropLast ++ ["." ++ name ++ "-00000000.tmp"])
  IO.FS.writeBinFile temporary bytes
  IO.setAccessRights temporary outputRights
  IO.FS.rename temporary (locationText l)

/-- Brings a location from one picture to what it is in a later one. -/
def bring (before : FileSystem) (change : Location × Entry) : IO Unit := do
  match change.2, before.get? change.1 with
  | .directory, none => IO.FS.createDir (locationText change.1)
  | .file bytes _, some (.file old _) =>
    if bytes == old then pure () else putFile change.1 bytes
  | .file bytes _, none => putFile change.1 bytes
  | _, _ => pure ()

/-! ## 3. The program -/

/-- Does to the real files what a run did to their picture, and reports on it; the answer is the
exit code. -/
def carryOut (fs : FileSystem) (result : RunResult) : IO UInt32 := do
  result.files.entries.forM (bring fs)
  IO.print (result.stdout fs)
  IO.eprint (result.stderr fs)
  match result.failure with
  | none => return 0
  | some e =>
    IO.eprintln (describeRun e)
    return 1

/-- What the program is for. -/
def usage : String :=
  "Usage: site generate [--page KEY] [--config FILE] [--output-dir DIR]"

end StaticSite.Program

/-- Reads the command line and does what it asks for. -/
def main (args : List String) : IO UInt32 := do
  let settings := [StaticSite.CommandLine.Setting.page, .config, .outputDir]
  let values ← settings.mapM fun setting => do
    return (setting.variable, ← IO.getEnv setting.variable)
  let env (name : String) : Option String := (values.lookup name).join
  match StaticSite.CommandLine.readCommand args env with
  | .ok command =>
    let fs ← StaticSite.Program.pictureFor command
    match command.perform fs with
    | none =>
      IO.println StaticSite.Program.usage
      return 0
    | some result => StaticSite.Program.carryOut fs result
  | .error e =>
    IO.eprintln e.message
    return 2
