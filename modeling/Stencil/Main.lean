import Stencil.Command.JsonFormats

/-!
# The program

Reads the files that a command names, runs the command on them, and does what it says: prints, and
writes the files that changed. Documents are read as JSON.
-/

namespace Stencil.Program

open Command

/-- The names of the files that a command reads. -/
def filesRead (r : Request) : List FileName :=
  let template (name : String) : List FileName := if name = "-" then [] else [.ofText name]
  match r.action with
  | .inspect name | .scaffold name _ | .check name _ => template name
  | .render name o =>
    ((given r.config).map .ofText).getD settingsFile :: template name ++
      ((given o.data).map .ofText).toList

/-- The places that delivering a text depends on. -/
def placesUsed : Destination → List Location
  | .output => []
  | .file name => name.passed ++ [name.place]
  | .directory directory name =>
    let target := directory.join name
    directory.passed ++ [directory.place] ++ target.passed ++ [target.place]

/-- The places that a command may write to and those on the way there, as far as the files that it
reads tell. -/
def placesWritten (s : Surroundings) (r : Request) : List Location :=
  match r.action with
  | .inspect _ | .check _ _ => []
  | .scaffold name inPlace => if inPlace then placesUsed (.file (.ofText name)) else []
  | .render template o =>
    match (renderWith .json s.input r.config template o).run ⟨s.folder, "", []⟩ with
    | .ok (settings, text) _ => placesUsed (destination settings o text)
    | .error _ _ => []

/-- Whether a command reads the standard input. -/
def readsInput (r : Request) : Bool :=
  match r.action with
  | .inspect name | .scaffold name _ | .check name _ | .render name _ => name = "-"

/-- The content of a file, if it can be read. -/
def readIfThere (name : String) : IO (Option Content) := do
  try
    let bytes ← IO.FS.readBinFile name
    return some (match String.fromUTF8? bytes with
      | some text => .text text
      | none => .bytes bytes.toList)
  catch _ => return none

/-- The name of the file at a place. -/
def nameOf (place : Location) : String :=
  match place with
  | [] => "."
  | "/" :: rest => "/" ++ String.intercalate "/" rest
  | "//" :: rest => "//" ++ String.intercalate "/" rest
  | place => String.intercalate "/" place

/-- Whether there is a directory at a place. -/
def isDirectoryThere (place : Location) : IO Bool := do
  try
    let _ ← IO.FS.realPath (nameOf place ++ "/.")
    return true
  catch _ => return false

/-- The files that a command reads. -/
def loadFolder (r : Request) : IO Folder := do
  let here ← IO.currentDir
  let mut files := []
  let mut directories := []
  for name in filesRead r do
    if let some content ← readIfThere name.toText then
      files := (name.place, content) :: files
      directories := name.passed ++ directories
  return ⟨.ofText here.toString, files, directories⟩

/-- A folder with what stands at more places. -/
def loadPlaces (folder : Folder) : List Location → IO Folder
  | [] => return folder
  | place :: rest => do
    if ← isDirectoryThere place then
      loadPlaces ⟨folder.here, folder.files, place :: folder.directories⟩ rest
    else
      match ← readIfThere (nameOf place) with
      | some content =>
        loadPlaces ⟨folder.here, (place, content) :: folder.files, folder.directories⟩ rest
      | none => loadPlaces folder rest

/-- Writes the files that a command changed. -/
def store (before after : Folder) : IO Unit := do
  for place in after.directories do
    unless before.directories.contains place do IO.FS.createDirAll (nameOf place)
  for (place, content) in before.changes after do
    match content with
    | .text text => IO.FS.writeFile (nameOf place) text
    | .bytes bytes => IO.FS.writeBinFile (nameOf place) ⟨bytes.toArray⟩

/-- What is said of a command that breaks off. -/
def breakMessage : Failure → String
  | .refused reason => reason.message
  | .overlong => "an integer has more than " ++ toString digitLimit ++ " digits"
  | .tooDeep => "the brackets of a document stand too deep in one another"
  | .document => "a document cannot be read"
  | .noAssignment => "an assignment lacks its text"
  | .file .noDirectory => "no such directory"
  | .file .notADirectory => "not a directory"
  | .file .isDirectory => "is a directory"
  | .file .isFile => "file exists"
  | .file .nullCharacter => "a file name holds the null character"
  | .file .nameTooLong => "a file name is too long"
  | .file .noText => "a file holds no text"

/-- Runs a command on the files of the disk. -/
def execute (r : Request) : IO UInt32 := do
  let folder ← loadFolder r
  let input ← if readsInput r then (← IO.getStdin).readToEnd else pure ""
  let verbose := ((← IO.getEnv verboseVariable).getD "") != ""
  let folder ← loadPlaces folder (placesWritten ⟨folder, input, verbose⟩ r)
  let surroundings : Surroundings := ⟨folder, input, verbose⟩
  let outcome := run .json surroundings r
  store folder outcome.folder
  IO.eprint (outcome.errors (showsAll surroundings r))
  IO.print outcome.output
  if let .brokenOff failure := outcome.ending then IO.eprintln (breakMessage failure)
  return outcome.exitCode.toUInt32

end Stencil.Program

open Stencil Command Program in
/-- The program. -/
def main (args : List String) : IO UInt32 :=
  match readCommandLine args with
  | .run r => execute r
  | .version => do
    IO.print versionLine
    return 0
  | .help => do
    IO.print usage
    return 0
  | .usageError => do
    IO.eprint usage
    return 2
