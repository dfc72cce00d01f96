import Stencil.Template.Directive

/-!
# Names for rendered texts

A rendered text is saved under the host name that it sets: the first word after `hostname`.
-/

namespace Stencil.Artifact

/-- The word `hostname`. -/
def keyword : List Char := "hostname".toList

/-- The word after blanks, if there are blanks and a word. -/
def wordAfterBlanks? (s : List Char) : Option (List Char) := do
  let s ← Template.Directive.afterBlanks? s
  match Text.firstWord s with
  | [] => none
  | word => some word

/-- The word after `hostname` and blanks, at the start of a text. -/
def hostnameHere? (s : List Char) : Option (List Char) :=
  (Text.afterPrefix? keyword s).bind wordAfterBlanks?

/-- The first word in a text that stands after `hostname` and blanks. -/
def findHostname? : List Char → Option (List Char)
  | [] => none
  | c :: s =>
    match hostnameHere? (c :: s) with
    | some word => some word
    | none => findHostname? s

/-- The host name that a text sets. -/
def hostname? (text : String) : Option String := (findHostname? text.toList).map String.ofList

/-- Characters that may not stand in the name of a file. -/
def isUnsafe (c : Char) : Bool := ['\\', '/', ':', '*', '?', '"', '<', '>', '|'].contains c

/-- Replaces the characters that may not stand in the name of a file. -/
def safe (s : List Char) : List Char := s.map fun c => if isUnsafe c then '_' else c

/-- The name to save a text under: its host name and the suffix, or the default name. -/
def filename (text defaultName suffix : String) : String :=
  match findHostname? text.toList with
  | some word => String.ofList (safe word) ++ suffix
  | none => defaultName

/-- The name for a text without a host name, unless another is set. -/
def standardName : String := "router-config.cfg"

/-- The suffix after a host name, unless another is set. -/
def standardSuffix : String := ".cfg"

end Stencil.Artifact
