import Stencil.Text.Line
import Stencil.Text.Search

/-!
# Files

The files that the program sees, as data: names of files as they are given, the places they mean,
and a folder with the content of every place. Nothing here reads a disk.
-/

namespace Stencil

/-- The name of a file: slashes at its start, and the parts between the other slashes. Empty parts
and parts that are a single dot are left out. -/
structure FileName where
  root : String
  parts : List String
deriving Repr, DecidableEq

namespace FileName

/-- The slashes that a name keeps at its start: one, but two if there are exactly two. -/
def rootOf : List Char → String
  | '/' :: '/' :: '/' :: _ => "/"
  | '/' :: '/' :: _ => "//"
  | '/' :: _ => "/"
  | _ => ""

/-- Reads a name. -/
def ofText (text : String) : FileName where
  root := rootOf text.toList
  parts := ((Text.splitOn '/' text.toList).map String.ofList).filter fun part =>
    part != "" && part != "."

/-- The text of a name. -/
def toText (n : FileName) : String :=
  if n.root = "" && n.parts.isEmpty then "." else n.root ++ String.intercalate "/" n.parts

/-- A name inside the directory of another one; a name with slashes at its start stands alone. -/
def join (directory name : FileName) : FileName :=
  if name.root = "" then ⟨directory.root, directory.parts ++ name.parts⟩ else name

end FileName

/-- A place in the tree of files: the parts on the way to it from the working directory. The way to
a place that is named from the root begins with the slashes of its name. -/
abbrev Location := List String

namespace Location

/-- The place one part further on. Two dots lead one part back, at the root nowhere, and from the
working directory out of it. -/
def step (place : Location) (part : String) : Location :=
  if part = ".." then
    match place.getLast? with
    | none => [".."]
    | some ".." => place ++ [".."]
    | some "/" => place
    | some "//" => place
    | some _ => place.dropLast
  else place ++ [part]

/-- Whether a place is a directory wherever the program works: the working directory, one that it
lies in, or the root. -/
def isAlwaysDirectory : Location → Bool
  | ["/"] | ["//"] => true
  | place => place.all (· = "..")

end Location

namespace FileName

/-- Where the way to a file begins. -/
def origin (n : FileName) : Location := if n.root = "" then [] else [n.root]

/-- The place that a name means, if all directories that it names are there. -/
def place (n : FileName) : Location := n.parts.foldl Location.step n.origin

/-- The directories that a name leads through. -/
def passed (n : FileName) : List Location :=
  (List.range n.parts.length).map fun k => (n.parts.take k).foldl Location.step n.origin

/-- Whether a name holds the null character, which no file's name does. -/
def holdsNull (n : FileName) : Bool := n.toText.toList.contains '\x00'

/-- The greatest length of a name, in bytes. -/
def limit : Nat := 4095

/-- The greatest length of one part of a name, in bytes. -/
def partLimit : Nat := 255

/-- Whether a name as a whole is too long. -/
def isTooLong (n : FileName) : Bool := limit < n.toText.utf8ByteSize

end FileName

/-- Whether the last part on the way to a place is too long. -/
def Location.isTooLong (place : Location) : Bool :=
  FileName.partLimit < (place.getLast?.getD "").utf8ByteSize

/-- Why a file cannot be reached or read: its directory is missing, a directory or a file stands
where the other has to be, there can be no file of its name, or it holds no text. -/
inductive FileError where
  | noDirectory
  | notADirectory
  | isDirectory
  | isFile
  | nullCharacter
  | nameTooLong
  | noText
deriving Repr, DecidableEq

/-- What a file holds: a text, or bytes that stand for none. -/
inductive Content where
  | text (s : String)
  | bytes (b : List UInt8)
deriving Repr, DecidableEq

/-- A tree of files: where the program works, the content of every file, and the directories that
are known beside those that hold files. -/
structure Folder where
  here : FileName
  files : List (Location × Content)
  directories : List Location
deriving Repr, DecidableEq

namespace Folder

/-- Whether a place is a directory. -/
def isDirectory (f : Folder) (place : Location) : Bool :=
  place.isAlwaysDirectory || f.directories.contains place ||
    f.files.any fun (file, _) => place.isPrefixOf file && place.length < file.length

/-- Whether a place is a file. -/
def isFile (f : Folder) (place : Location) : Bool := (f.files.lookup place).isSome

/-- What is wrong with a place that is no directory and has to be one. -/
def directoryError (f : Folder) (place : Location) : FileError :=
  if place.isTooLong then .nameTooLong
  else if f.isFile place then .notADirectory
  else .noDirectory

/-- What keeps a name from meaning a place: there can be no file of the name, or one of the places
that it leads through is no directory. -/
def obstacle? (f : Folder) (name : FileName) : Option FileError :=
  if name.holdsNull then some .nullCharacter
  else if name.isTooLong then some .nameTooLong
  else
    match name.passed.find? fun place => !f.isDirectory place with
    | some place => some (f.directoryError place)
    | none => if name.place.isTooLong then some .nameTooLong else none

/-- The text of the file with the name, its line ends unified, if there is one. A name that is too
long is an error, and so is a file without a text. -/
def read (f : Folder) (name : FileName) : Except FileError (Option String) :=
  match f.obstacle? name with
  | some .nameTooLong => .error .nameTooLong
  | some _ => .ok none
  | none =>
    match f.files.lookup name.place with
    | none => .ok none
    | some (.text s) => .ok (some (String.ofList (Text.unifyNewlines s.toList)))
    | some (.bytes _) => .error .noText

/-- Puts a text under a place. -/
def put (place : Location) (text : String) : List (Location × Content) → List (Location × Content)
  | [] => [(place, .text text)]
  | (file, old) :: rest =>
    if file = place then (file, .text text) :: rest else (file, old) :: put place text rest

/-- Writes a file. Its directory has to be there. -/
def write (f : Folder) (name : FileName) (text : String) : Except FileError Folder :=
  match f.obstacle? name with
  | some e => .error e
  | none =>
    if f.isDirectory name.place then .error .isDirectory
    else .ok ⟨f.here, put name.place text f.files, f.directories⟩

/-- Makes a directory at every place that has none, one after another. A file at one of them ends
it, and so does a place that is too long; what was made before stays. -/
def makeDirectories (f : Folder) : List Location → Folder × Option FileError
  | [] => (f, none)
  | place :: rest =>
    if f.isFile place then (f, some .isFile)
    else if f.isDirectory place then f.makeDirectories rest
    else if place.isTooLong then (f, some .nameTooLong)
    else (Folder.mk f.here f.files (f.directories ++ [place])).makeDirectories rest

/-- Makes a directory, and those that its name leads through, also where the name leaves them
again. Any obstacle but a missing directory keeps all from being made. -/
def makeDirectory (f : Folder) (name : FileName) : Folder × Option FileError :=
  match f.obstacle? name with
  | none | some .noDirectory => f.makeDirectories (name.passed ++ [name.place])
  | some e => (f, some e)

/-- The files of `after` that `before` does not have, or has with another content. -/
def changes (before after : Folder) : List (Location × Content) :=
  after.files.filter fun (file, content) => before.files.lookup file != some content

end Folder

end Stencil
