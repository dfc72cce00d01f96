import Stencil.Artifact

/-!
# Settings

What the program does, and what it does when it is not told otherwise.
-/

namespace Stencil

/-- The settings of the program. -/
structure Settings where
  /-- The directory that rendered texts are saved in; without one they are printed. -/
  outputDir : Option String
  defaultFilename : String
  artifactSuffix : String
  applyDefaults : Bool
  requireValues : Bool
  warnOnDefaults : Bool
deriving Repr, DecidableEq

namespace Settings

/-- The settings when nothing is set. -/
def standard : Settings := ⟨none, Artifact.standardName, Artifact.standardSuffix, true, false, true⟩

end Settings

end Stencil
