import Stencil.Command.Run
import Stencil.Json.Document

/-!
# Documents in JSON

The documents that this program can read by itself. They are only one choice of `Command.Formats`: a
document is a JSON text, and a file of settings is an object in which each field is a setting that
is there and has a value that fits. What is said of commands elsewhere does not rest on it.
-/

namespace Stencil

namespace Settings

/-- The truth value that a word stands for, in letters of either case. -/
def boolOfWord? (word : String) : Option Bool :=
  let lower := String.ofList (word.toList.map Char.toLower)
  if ["0", "off", "f", "false", "n", "no"].contains lower then some false
  else if ["1", "on", "t", "true", "y", "yes"].contains lower then some true
  else none

/-- A setting that is on or off: a truth value, zero or one, or a word for one of them. -/
def bool? : Value → Option Bool
  | .bool b => some b
  | .number n =>
    if n.equal (.whole 0) then some false else if n.equal (.whole 1) then some true else none
  | .text s => boolOfWord? s
  | _ => none

/-- A setting that is a text. -/
def text? : Value → Option String
  | .text s => some s
  | _ => none

/-- A setting that is a text or absent. -/
def optionalText? : Value → Option (Option String)
  | .null => some none
  | .text s => some (some s)
  | _ => none

/-- The settings after one more is set. -/
def set? (s : Settings) (name : String) (value : Value) : Option Settings :=
  match name with
  | "output_dir" => do
    let v ← optionalText? value
    return ⟨v, s.defaultFilename, s.artifactSuffix, s.applyDefaults, s.requireValues,
      s.warnOnDefaults⟩
  | "default_filename" => do
    let v ← text? value
    return ⟨s.outputDir, v, s.artifactSuffix, s.applyDefaults, s.requireValues, s.warnOnDefaults⟩
  | "artifact_suffix" => do
    let v ← text? value
    return ⟨s.outputDir, s.defaultFilename, v, s.applyDefaults, s.requireValues, s.warnOnDefaults⟩
  | "apply_defaults" => do
    let v ← bool? value
    return ⟨s.outputDir, s.defaultFilename, s.artifactSuffix, v, s.requireValues,
      s.warnOnDefaults⟩
  | "require_values" => do
    let v ← bool? value
    return ⟨s.outputDir, s.defaultFilename, s.artifactSuffix, s.applyDefaults, v,
      s.warnOnDefaults⟩
  | "warn_on_defaults" => do
    let v ← bool? value
    return ⟨s.outputDir, s.defaultFilename, s.artifactSuffix, s.applyDefaults, s.requireValues, v⟩
  | _ => none

/-- The settings that the fields of an object make. -/
def ofFields? (fields : Entries Value) : Option Settings :=
  fields.foldlM (fun s (name, value) => s.set? name value) standard

end Settings

namespace Command

/-- The error of a text that is no JSON document. A name that comes twice is against the rules. -/
def DocumentError.ofRead : Json.ReadError → DocumentError
  | .malformed | .repeatedName _ => .malformed
  | .overlong => .overlong
  | .tooDeep => .tooDeep

/-- Reads a JSON document. An empty one stands for `null`. -/
def readJson (text : String) : Except DocumentError Value :=
  if Json.isEmptyDocument text then .ok .null
  else (Json.readDocument text).mapError .ofRead

/-- Documents in JSON. -/
def Formats.json : Formats where
  document := readJson
  settings? := Settings.ofFields?

end Command

end Stencil
