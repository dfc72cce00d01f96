import Stencil.Assignment
import Stencil.Command.Arguments
import Stencil.Command.Folder
import Stencil.Json.Writer
import Stencil.Render.Basic
import Stencil.Settings
import Stencil.Template.Report

/-!
# Running commands

A command reads files, prints, reports and writes files, one step after another, and each step may
fail. What was done before a step that fails stays done: nothing is taken back. So whether a command
that is refused has changed anything depends on the order of its steps.

Documents are read and settings are checked by libraries, which are no part of this program. What
they do is a parameter of the commands (`Formats`).
-/

namespace Stencil.Command

/-- Why a settings file cannot be used. -/
inductive SettingsError where
  | notFound (name : String)
  | broken (name : String)
  | noObject (name : String)
  | invalid (name : String)
deriving Repr, DecidableEq

/-- Why data cannot be used. -/
inductive DataError where
  | notFound (name : String)
  | broken (name : String)
  | noObject (name : String)
  | assignment (error : Assignment.Invalid)
deriving Repr, DecidableEq

/-- Why a command is refused. -/
inductive Refusal where
  | templateNotFound (name : String)
  | inPlaceInput
  | settings (error : SettingsError)
  | data (error : DataError)
  | nesting (d : Template.Diagnostic)
  | missingValues (names : List String)
deriving Repr, DecidableEq

/-- The message about a file that is no document. -/
def brokenMessage (name : String) : String := "Invalid YAML in " ++ name ++ ":"

/-- The message about a document that is no object. -/
def noObjectMessage (name : String) : String := "YAML must be a mapping: " ++ name

/-- The message on a settings file. -/
def SettingsError.message : SettingsError → String
  | notFound name => "Config file not found: " ++ name
  | broken name => brokenMessage name
  | noObject name => noObjectMessage name
  | invalid name => "Invalid config " ++ name ++ ":"

/-- The message on data. -/
def DataError.message : DataError → String
  | notFound name => "Data file not found: " ++ name
  | broken name => brokenMessage name
  | noObject name => noObjectMessage name
  | assignment error => error.message

/-- The message of a refusal. -/
def Refusal.message : Refusal → String
  | templateNotFound name => "Template not found: " ++ name
  | inPlaceInput => "--in-place cannot be used with stdin"
  | settings error => error.message
  | data error => error.message
  | nesting d => d.errorMessage
  | missingValues names => "Missing values for: " ++ String.intercalate ", " names

/-- How a command fails: it is refused, or it breaks off on an integer of too many digits, on a
document that cannot be read, on an assignment that lacks its text, or on a file that cannot be
reached. -/
inductive Failure where
  | refused (reason : Refusal)
  | overlong
  | tooDeep
  | document
  | noAssignment
  | file (error : FileError)
deriving Repr, DecidableEq

/-- Why a text is no document: it breaks the rules of documents; or its reading breaks off, on an
integer of too many digits, on brackets that stand too deep in one another, or on anything else. -/
inductive DocumentError where
  | malformed
  | overlong
  | tooDeep
  | other
deriving Repr, DecidableEq

/-- How a command fails on a text that is no document. One that breaks the rules gives the
`refusal`. -/
def DocumentError.failure (refusal : Refusal) : DocumentError → Failure
  | malformed => .refused refusal
  | overlong => .overlong
  | tooDeep => .tooDeep
  | other => .document

/-- What the program leaves to libraries: reading a document, and checking settings. A document
stands for a value of data; one with nothing in it stands for `null`. -/
structure Formats where
  /-- The value that the text of a document stands for. -/
  document : String → Except DocumentError Value
  /-- The settings that the fields of an object make, if all of them are settings and have values
  that fit. -/
  settings? : Entries Value → Option Settings

/-- What a command starts with: the files, the standard input, and whether the environment asks for
all notes. -/
structure Surroundings where
  folder : Folder
  input : String
  verbose : Bool
deriving Repr, DecidableEq

/-! ## Steps -/

/-- What a command has done so far: the files as they are now, and what was printed and reported. -/
structure Progress where
  folder : Folder
  output : String
  notes : List Note
deriving Repr, DecidableEq

/-- Steps of a command. They go on from what was done before, and a step that fails takes nothing of
that back. -/
abbrev Attempt := EStateM Failure Progress

namespace Attempt

/-- Adds notes, in order. -/
def report (notes : List Note) : Attempt Unit :=
  modify fun p => { p with notes := p.notes ++ notes }

/-- Prints a text. -/
def print (text : String) : Attempt Unit := modify fun p => { p with output := p.output ++ text }

/-- Refuses the command. -/
def refuse {α : Type} (reason : Refusal) : Attempt α := throw (.refused reason)

/-- The result of a conversion. -/
def ofOverlong {α : Type} : Except Overlong α → Attempt α
  | .ok a => return a
  | .error _ => throw .overlong

/-- The text of the file with the name, if there is one. -/
def readFile (name : FileName) : Attempt (Option String) := do
  match (← get).folder.read name with
  | .ok found => return found
  | .error e => throw (.file e)

/-- Writes a text to the file with the name. -/
def writeFile (name : FileName) (text : String) : Attempt Unit := do
  let p ← get
  match p.folder.write name text with
  | .ok after => set { p with folder := after }
  | .error e => throw (.file e)

/-- Makes a directory. Those that are made on the way to an obstacle stay. -/
def makeDirectory (name : FileName) : Attempt Unit := do
  let p ← get
  let (made, problem) := p.folder.makeDirectory name
  set { p with folder := made }
  match problem with
  | some e => throw (.file e)
  | none => return ()

end Attempt

open Attempt

/-! ## Files -/

section Documents

variable (formats : Formats)

/-- The fields of a document; one with nothing in it has none. `broken` and `noObject` are the
refusals of a text that breaks the rules and of a document that is no object. -/
def readFields (text : String) (broken noObject : Refusal) : Attempt (Entries Value) :=
  match formats.document text with
  | .ok .null => return []
  | .ok (.object fields) => return fields
  | .ok _ => refuse noObject
  | .error e => throw (e.failure broken)

/-- The file that settings are looked for in when none is named. -/
def settingsFile : FileName := ⟨"", ["cfgtpl.yaml"]⟩

/-- Reads settings from the text of the file `name`. -/
def readSettings (name text : String) : Attempt Settings := do
  let fields ← readFields formats text (.settings (.broken name)) (.settings (.noObject name))
  match formats.settings? fields with
  | none => refuse (.settings (.invalid name))
  | some settings => do
    report [.debug ("Loaded config from " ++ name)]
    return settings

/-- The settings of the named file, or of the usual one if it is there. -/
def loadSettings : Option FileName → Attempt Settings
  | some name => do
    match ← readFile name with
    | none => refuse (.settings (.notFound name.toText))
    | some text => readSettings formats name.toText text
  | none => do
    match ← readFile settingsFile with
    | none => return .standard
    | some text =>
      readSettings formats ((← get).folder.here.join settingsFile).toText text

/-- The data of the named file. -/
def loadData (name : FileName) : Attempt (Entries Value) := do
  match ← readFile name with
  | none => refuse (.data (.notFound name.toText))
  | some text =>
    readFields formats text (.data (.broken name.toText)) (.data (.noObject name.toText))

end Documents

/-- The text of a template: that of a file, or the standard input for a hyphen. -/
def readTemplate (input template : String) : Attempt String := do
  if template = "-" then return String.ofList (Text.unifyNewlines input.toList)
  else
    match ← readFile (.ofText template) with
    | some text => return text
    | none => refuse (.templateNotFound (FileName.ofText template).toText)

/-- Reads a template, strictly or not, and reports on it. -/
def parseTemplate (strict : Bool) (source : String) : Attempt Template := do
  report (Template.scanNotes source)
  match Template.parseWith strict source with
  | .error d => refuse (.nesting d)
  | .ok t => do
    report (t.problems.map Template.problemNote ++ [t.summaryNote])
    return t

/-! ## Rendering -/

/-- A text given on the command line; an empty one counts as none. -/
def given (text : Option String) : Option String := text.filter (· != "")

/-- The data that assignments make. They are read in order, up to the first that lacks its text. -/
def assignedData (items : List (Option String)) : Attempt (Entries Value) :=
  let texts := (items.takeWhile Option.isSome).filterMap id
  match Assignment.readAll texts with
  | .error e => refuse (.data (.assignment e))
  | .ok assigned => if texts.length = items.length then return assigned else throw .noAssignment

/-- The data of a rendering: that of the file, and the assignments laid over it. -/
def renderData (formats : Formats) (o : RenderOptions) : Attempt (Entries Value) := do
  let base ← match given o.data with
    | some name => loadData formats (.ofText name)
    | none => pure []
  return Value.mergeFields base (← assignedData o.assignments)

/-- Refuses a rendering that lacks values, if all are required. -/
def requireValues (required : Bool) (t : Template) (data : Value) : Attempt Unit := do
  if required then
    let missing ← ofOverlong (t.missingNames data)
    unless missing.isEmpty do refuse (.missingValues missing)

/-- What is reported of the names whose value is a default. -/
def defaultsNotes (warn : Bool) (t : Template) (data : Value) : List Note :=
  let names := t.defaultedNames data
  if warn && !names.isEmpty then
    [.warning ("Using default values: " ++ String.intercalate ", "
      (names.map fun name => name ++ "=" ++ Text.quote (t.defaultText name)))]
  else []

/-- The rendered text. -/
def renderText (t : Template) (data : Value) : Attempt String := do
  let rendered := t.render true data
  report rendered.notes
  ofOverlong rendered.text

/-- The settings in force, and the text that the template gives. -/
def renderWith (formats : Formats) (input : String) (config : Option String) (template : String)
    (o : RenderOptions) : Attempt (Settings × String) := do
  let settings ← loadSettings formats ((given config).map .ofText)
  let t ← parseTemplate o.strict (← readTemplate input template)
  let data := Value.object (← renderData formats o)
  let t := t.withDefaults (settings.applyDefaults && !o.noDefaults)
  requireValues (o.requireValues || settings.requireValues) t data
  report (defaultsNotes settings.warnOnDefaults t data)
  let text ← renderText t data
  return (settings, text)

/-- Where a rendered text goes: to a file, to a file in a directory that is made if need be, or to
the standard output. -/
inductive Destination where
  | file (name : FileName)
  | directory (directory name : FileName)
  | output
deriving Repr, DecidableEq

/-- The output file, else the directory to save in, else the standard output. -/
def destination (settings : Settings) (o : RenderOptions) (text : String) : Destination :=
  match given o.output with
  | some name => .file (.ofText name)
  | none =>
    match (given o.save).or (given settings.outputDir) with
    | some directory =>
      .directory (.ofText directory)
        (.ofText (Artifact.filename text settings.defaultFilename settings.artifactSuffix))
    | none => .output

/-- Delivers a rendered text. The name of a file in a directory is printed. -/
def deliver (text : String) : Destination → Attempt Unit
  | .file name => writeFile name text
  | .directory directory name => do
    let target := directory.join name
    makeDirectory directory
    writeFile target text
    report [.info ("Configuration written to " ++ target.toText)]
    print (target.toText ++ "\n")
  | .output => print text

/-! ## Commands -/

/-- Renders a template. -/
def render (formats : Formats) (input : String) (config : Option String) (template : String)
    (o : RenderOptions) : Attempt Nat := do
  let (settings, text) ← renderWith formats input config template o
  deliver text (destination settings o text)
  return 0

/-- Puts a defaults block before a template, in its file or on the standard output. -/
def scaffold (input template : String) (inPlace : Bool) : Attempt Nat := do
  let source ← readTemplate input template
  report (Template.scaffoldNotes source)
  let text := Template.scaffold source
  if inPlace then
    if template = "-" then refuse .inPlaceInput
    else if text = source then return 0
    else do
      writeFile (.ofText template) text
      return 0
  else do
    print text
    return 0

/-- Prints what a template asks for. -/
def inspect (input template : String) : Attempt Nat := do
  let t ← parseTemplate false (← readTemplate input template)
  print (Json.write 0 t.report ++ "\n")
  return 0

/-- Prints texts, a line for each. -/
def printLines : List String → Attempt Unit
  | [] => return ()
  | line :: rest => do
    print (line ++ "\n")
    printLines rest

/-- Prints the problems of a template. The exit code tells whether there are any. -/
def check (input template : String) (strict : Bool) : Attempt Nat := do
  let t ← parseTemplate strict (← readTemplate input template)
  let lines ← ofOverlong t.check
  printLines lines
  return if lines.isEmpty then 0 else 1

/-- The steps of a command. They give its exit code. -/
def perform (formats : Formats) (input : String) (r : Request) : Attempt Nat :=
  match r.action with
  | .inspect template => inspect input template
  | .render template o => render formats input r.config template o
  | .scaffold template inPlace => scaffold input template inPlace
  | .check template strict => check input template strict

/-- How a command ended: with an exit code, or by breaking off. -/
inductive Ending where
  | exit (code : Nat)
  | refused (reason : Refusal)
  | brokenOff (failure : Failure)
deriving Repr, DecidableEq

/-- What a command did: the files afterwards, what it printed, and how it ended. -/
structure Outcome where
  folder : Folder
  output : String
  notes : List Note
  ending : Ending
deriving Repr, DecidableEq

/-- What was done by a command that ended so. -/
def Progress.outcome (p : Progress) (ending : Ending) : Outcome :=
  ⟨p.folder, p.output, p.notes, ending⟩

/-- Runs a command. -/
def run (formats : Formats) (s : Surroundings) (r : Request) : Outcome :=
  match (perform formats s.input r).run ⟨s.folder, "", []⟩ with
  | .ok code p => p.outcome (.exit code)
  | .error (.refused reason) p => p.outcome (.refused reason)
  | .error failure p => p.outcome (.brokenOff failure)

namespace Outcome

/-- The exit code: two for a refusal, and one for a command that broke off. -/
def exitCode (o : Outcome) : Nat :=
  match o.ending with
  | .exit code => code
  | .refused _ => 2
  | .brokenOff _ => 1

/-- The line of a note. -/
def noteLine (n : Note) : String := "[" ++ n.level.name ++ "] " ++ n.message ++ "\n"

/-- The notes that are shown: all of them, or the warnings. -/
def shownNotes (verbose : Bool) (o : Outcome) : List Note :=
  if verbose then o.notes else o.notes.filter (·.level = .warning)

/-- What goes to the standard error: the notes that are shown, and the message of a refusal. -/
def errors (verbose : Bool) (o : Outcome) : String :=
  String.join ((o.shownNotes verbose).map noteLine) ++
    match o.ending with
    | .refused reason =>
      String.ofList (Text.trimEnd reason.message.toList) ++ "\n"
    | _ => ""

end Outcome

/-- Whether a command shows all its notes. -/
def showsAll (s : Surroundings) (r : Request) : Bool := r.verbose || s.verbose

/-- The name of the program. -/
def programName : String := "cfgtpl"

/-- The version of the program. -/
def version : String := "0.1.0"

/-- The line that tells the version. -/
def versionLine : String := programName ++ " " ++ version ++ "\n"

/-- The environment variable that asks for all notes. -/
def verboseVariable : String := "CFGTPL_DEBUG"

/-- How the program is called. -/
def usage : String :=
  "usage: " ++ programName ++ " [-h] [-V] [-v] [--config FILE] COMMAND TEMPLATE\n" ++
  "commands: inspect, render, scaffold, check\n"

end Stencil.Command
