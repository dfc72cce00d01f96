import Stencil.Text.Digit
import Stencil.Text.Search

/-!
# Options on a command line

How one argument is understood. An option has a long name, and maybe a short one. A long name may be
cut short as long as no other long name begins so. A value stands after the option, or is attached:
after an equals sign, or right after a short name. Short options without a value may stand together.
The mark `--` is no value: attached to an option, it leaves the option without a text.

An argument that begins with a hyphen is no option when it is a negative number, holds a space, or
is the hyphen alone.
-/

namespace Stencil.Command

/-- The command line breaks the rules of its options. -/
inductive UsageError where
  | usage
deriving Repr, DecidableEq

/-- The options of a command, by their names, and which of them take a value. -/
structure OptionSet (α : Type) where
  names : List (String × α)
  takesValue : α → Bool

/-- How an argument is understood. An option comes with its name in full and with the value
attached to it. -/
inductive Argument (α : Type) where
  | positional
  | unknown
  | ambiguous
  | option (o : α) (name : String) (attached : Option String)

/-- What an option argument asks for: an option that is on, or an option with its value, which may
lack its text. -/
inductive Setting (α : Type) where
  | flag (o : α)
  | value (o : α) (text : Option String)

/-- Whether an argument is a negative number. -/
def isNegativeNumber (arg : String) : Bool :=
  match arg.toList with
  | '-' :: s =>
    let s := if s.getLast? = some '\n' then s.dropLast else s
    match s.dropWhile Text.isDigit with
    | [] => !s.isEmpty
    | '.' :: fraction => !fraction.isEmpty && fraction.all Text.isDigit
    | _ => false
  | _ => false

namespace OptionSet

variable {α : Type}

/-- The option of a name. -/
def find? (set : OptionSet α) (name : String) : Option α := set.names.lookup name

/-- The parts of an argument before and after its first equals sign. -/
def splitValue (arg : String) : String × Option String :=
  match Text.cut? ['='] arg.toList with
  | some (name, value) => (String.ofList name, some (String.ofList value))
  | none => (arg, none)

/-- The options that an argument may mean when it is no full name: for two hyphens the long names
that begin so, for one hyphen the short name with a value attached. -/
def candidates (set : OptionSet α) (arg : String) : List (α × String × Option String) :=
  match arg.toList with
  | '-' :: '-' :: _ =>
    let (start, attached) := splitValue arg
    (set.names.filter fun (name, _) => start.toList.isPrefixOf name.toList).map
      fun (name, o) => (o, name, attached)
  | '-' :: c :: value =>
    (set.names.filter fun (name, _) => name = String.ofList ['-', c]).map
      fun (name, o) => (o, name, some (String.ofList value))
  | _ => []

/-- How an argument is understood when it is no full name with a value after an equals sign. -/
def classifyShortened (set : OptionSet α) (arg : String) : Argument α :=
  match set.candidates arg with
  | [(o, name, attached)] => .option o name attached
  | _ :: _ :: _ => .ambiguous
  | [] => if isNegativeNumber arg || arg.contains ' ' then .positional else .unknown

/-- How an argument is understood. -/
def classify (set : OptionSet α) (arg : String) : Argument α :=
  if arg.startsWith "-" then
    match set.find? arg with
    | some o => .option o arg none
    | none =>
      if arg = "-" then .positional
      else
        match splitValue arg with
        | (name, some value) =>
          match set.find? name with
          | some o => .option o name (some value)
          | none => set.classifyShortened arg
        | (_, none) => set.classifyShortened arg
  else .positional

/-- Whether an argument may be the value of the option before it. -/
def isValue (set : OptionSet α) (arg : String) : Bool :=
  arg != "--" && set.classify arg matches .positional

/-- The text of a value that is attached to an option. -/
def attachedText (value : String) : Option String := if value = "--" then none else some value

/-- The settings of an option that stands alone, or the option itself if its value is to come. -/
def expandAlone (set : OptionSet α) (o : α) : List (Setting α) × Option α :=
  if set.takesValue o then ([], some o) else ([.flag o], none)

/-- The settings of short options that stand together: `o`, and those whose letters follow. The
last one may take the rest as its value, or wait for one. -/
def expandShort (set : OptionSet α) (o : α) :
    List Char → Except UsageError (List (Setting α) × Option α)
  | [] => .ok (set.expandAlone o)
  | c :: rest =>
    if set.takesValue o then .ok ([.value o (attachedText (String.ofList (c :: rest)))], none)
    else
      match set.find? (String.ofList ['-', c]) with
      | some next => do
        let (settings, waiting) ← set.expandShort next rest
        return (.flag o :: settings, waiting)
      | none => .error .usage

/-- The settings of an option and the value attached to it, and the option that waits for its
value, if one does. -/
def expand (set : OptionSet α) (o : α) (name : String) :
    Option String → Except UsageError (List (Setting α) × Option α)
  | none => .ok (set.expandAlone o)
  | some attached =>
    if set.takesValue o then .ok ([.value o (attachedText attached)], none)
    else if name.startsWith "--" || attached = "" then .error .usage
    else set.expandShort o attached.toList

end OptionSet

end Stencil.Command
