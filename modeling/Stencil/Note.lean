/-!
# Notes

What the program reports beside its result: each note has a level, which decides whether it is
shown, and one line of text.
-/

namespace Stencil

/-- How much a note matters. -/
inductive NoteLevel where
  | debug
  | info
  | warning
deriving Repr, DecidableEq

/-- The name of a level, as it is shown. -/
def NoteLevel.name : NoteLevel → String
  | debug => "DEBUG"
  | info => "INFO"
  | warning => "WARNING"

/-- Something worth reporting. -/
structure Note where
  level : NoteLevel
  message : String
deriving Repr, DecidableEq

namespace Note

/-- A note for those who follow the program's steps. -/
def debug (message : String) : Note := ⟨.debug, message⟩

/-- A note on something done. -/
def info (message : String) : Note := ⟨.info, message⟩

/-- A note on something that may be wrong. -/
def warning (message : String) : Note := ⟨.warning, message⟩

end Note

end Stencil
