import Stencil.Command.Option

/-!
# The command line

The commands of the program, and how they are read from the arguments. Options of the whole program
stand before the name of the command, options of a command after it. After `--` everything is a
positional argument.
-/

namespace Stencil.Command

/-- What the command `render` is told. An assignment may lack its text. -/
structure RenderOptions where
  data : Option String
  assignments : List (Option String)
  noDefaults : Bool
  requireValues : Bool
  strict : Bool
  output : Option String
  save : Option String
deriving Repr, DecidableEq

namespace RenderOptions

/-- Nothing is told. -/
def none : RenderOptions := ⟨.none, [], false, false, false, .none, .none⟩

end RenderOptions

/-- A command, with the template it is for; a hyphen stands for the standard input. -/
inductive Action where
  | inspect (template : String)
  | render (template : String) (options : RenderOptions)
  | scaffold (template : String) (inPlace : Bool)
  | check (template : String) (strict : Bool)
deriving Repr, DecidableEq

/-- A command line that has been read. -/
structure Request where
  verbose : Bool
  config : Option String
  action : Action
deriving Repr, DecidableEq

/-- What a command line asks for. -/
inductive Invocation where
  | run (request : Request)
  | version
  | help
  | usageError
deriving Repr, DecidableEq

/-! ## Options -/

/-- The options of the whole program. -/
inductive GlobalOption where
  | help
  | version
  | verbose
  | config
deriving Repr, DecidableEq

/-- The options of the whole program by name. -/
def globalOptions : OptionSet GlobalOption where
  names := [("-h", .help), ("--help", .help), ("-V", .version), ("--version", .version),
    ("-v", .verbose), ("--verbose", .verbose), ("--config", .config)]
  takesValue
    | .config => true
    | _ => false

/-- The options of commands. -/
inductive CommandOption where
  | help
  | data
  | assignment
  | noDefaults
  | requireValues
  | strict
  | output
  | save
  | inPlace
deriving Repr, DecidableEq

/-- The names of commands. -/
inductive CommandName where
  | inspect
  | render
  | scaffold
  | check
deriving Repr, DecidableEq

namespace CommandName

/-- The command of a name. -/
def ofText? : String → Option CommandName
  | "inspect" => some inspect
  | "render" => some render
  | "scaffold" => some scaffold
  | "check" => some check
  | _ => none

/-- The options of a command by name. -/
def optionNames : CommandName → List (String × CommandOption)
  | inspect => []
  | render => [("-d", .data), ("--data", .data), ("--set", .assignment),
      ("--no-defaults", .noDefaults), ("--require-values", .requireValues),
      ("--strict", .strict), ("-o", .output), ("--output", .output), ("--save", .save)]
  | scaffold => [("--in-place", .inPlace)]
  | check => [("--strict", .strict)]

/-- The options of a command. -/
def options (name : CommandName) : OptionSet CommandOption where
  names := [("-h", .help), ("--help", .help)] ++ name.optionNames
  takesValue
    | .data | .assignment | .output | .save => true
    | _ => false

end CommandName

/-! ## Reading the arguments of a command -/

/-- The arguments of a command that have been read. -/
structure Draft where
  template : Option String
  options : RenderOptions
  inPlace : Bool
  /-- Whether there was an argument that means nothing. -/
  spoiled : Bool

namespace Draft

/-- Nothing is read. -/
def start : Draft := ⟨none, .none, false, false⟩

/-- After an argument that means nothing. -/
def spoil (d : Draft) : Draft := ⟨d.template, d.options, d.inPlace, true⟩

/-- After the options have changed. -/
def withOptions (d : Draft) (options : RenderOptions) : Draft :=
  ⟨d.template, options, d.inPlace, d.spoiled⟩

/-- After a positional argument: the first is the template. -/
def addPositional (d : Draft) (arg : String) : Draft :=
  match d.template with
  | none => ⟨some arg, d.options, d.inPlace, d.spoiled⟩
  | some _ => d.spoil

/-- After an option without a value. -/
def addFlag (d : Draft) : CommandOption → Draft
  | .noDefaults => d.withOptions ⟨d.options.data, d.options.assignments, true,
      d.options.requireValues, d.options.strict, d.options.output, d.options.save⟩
  | .requireValues => d.withOptions ⟨d.options.data, d.options.assignments, d.options.noDefaults,
      true, d.options.strict, d.options.output, d.options.save⟩
  | .strict => d.withOptions ⟨d.options.data, d.options.assignments, d.options.noDefaults,
      d.options.requireValues, true, d.options.output, d.options.save⟩
  | .inPlace => ⟨d.template, d.options, true, d.spoiled⟩
  | _ => d

/-- After an option with a value. A value that lacks its text counts as an empty one, save for
assignments. An output file and a directory to save in exclude each other. -/
def addValue (d : Draft) (o : CommandOption) (text : Option String) : Except UsageError Draft :=
  let r := d.options
  let value := text.getD ""
  match o with
  | .data => .ok (d.withOptions ⟨some value, r.assignments, r.noDefaults, r.requireValues,
      r.strict, r.output, r.save⟩)
  | .assignment => .ok (d.withOptions ⟨r.data, r.assignments ++ [text], r.noDefaults,
      r.requireValues, r.strict, r.output, r.save⟩)
  | .output =>
    if r.save.isSome then .error .usage
    else .ok (d.withOptions ⟨r.data, r.assignments, r.noDefaults, r.requireValues, r.strict,
      some value, r.save⟩)
  | .save =>
    if r.output.isSome then .error .usage
    else .ok (d.withOptions ⟨r.data, r.assignments, r.noDefaults, r.requireValues, r.strict,
      r.output, some value⟩)
  | _ => .ok d

/-- After all positional arguments that follow `--`. The mark itself is one too many when the
template stands before it, unless right before it. -/
def addRest (d : Draft) (afterTemplate : Bool) (args : List String) : Draft :=
  match d.template, args with
  | none, [] => d
  | none, arg :: rest => if rest.isEmpty then d.addPositional arg else d.spoil
  | some _, [] => if afterTemplate then d else d.spoil
  | some _, _ :: _ => d.spoil

/-- The action that the arguments of a command make. -/
def action? (d : Draft) (name : CommandName) : Option Action :=
  if d.spoiled then none
  else d.template.map fun template =>
    match name with
    | .inspect => .inspect template
    | .render => .render template d.options
    | .scaffold => .scaffold template d.inPlace
    | .check => .check template d.options.strict

end Draft

/-- The end of reading a command line before its last argument. -/
inductive Stop where
  | help
  | version
  | usage
deriving Repr, DecidableEq

/-- What a command line asks for when its reading ended early. -/
def Stop.invocation : Stop → Invocation
  | help => .help
  | version => .version
  | usage => .usageError

/-- What reading options gives, as reading the command line sees it. -/
def Stop.ofUsage {α : Type} : Except UsageError α → Except Stop α
  | .ok a => .ok a
  | .error .usage => .error .usage

/-- Makes the settings of one argument. -/
def Draft.apply (d : Draft) : List (Setting CommandOption) → Except Stop Draft
  | [] => .ok d
  | .flag .help :: _ => .error .help
  | .flag o :: rest => (d.addFlag o).apply rest
  | .value o text :: rest => do (← Stop.ofUsage (d.addValue o text)).apply rest

/-- Reads the arguments of a command. `afterTemplate` tells whether the template came last. The
settings of an argument are made once its value, if it waits for one, is there. -/
def readArguments (set : OptionSet CommandOption) (d : Draft) (afterTemplate : Bool) :
    List String → Except Stop Draft
  | [] => .ok d
  | arg :: rest =>
    if arg = "--" then .ok (d.addRest afterTemplate rest)
    else
      match set.classify arg with
      | .positional => readArguments set (d.addPositional arg) d.template.isNone rest
      | .unknown => readArguments set d.spoil false rest
      | .ambiguous => .error .usage
      | .option o name attached =>
        match set.expand o name attached, rest with
        | .ok (settings, none), rest => do readArguments set (← d.apply settings) false rest
        | .ok (settings, some o), value :: rest =>
          if set.isValue value then do
            readArguments set (← d.apply (settings ++ [.value o (some value)])) false rest
          else .error .usage
        | _, _ => .error .usage

/-- Whether an argument before `--` could be more than one option. -/
def hasAmbiguous {α : Type} (set : OptionSet α) (args : List String) : Bool :=
  (args.takeWhile (· != "--")).any fun arg => set.classify arg matches .ambiguous

/-- Reads a command: its name and its arguments. -/
def readCommand (name : String) (args : List String) : Except Stop (Option Action) :=
  match CommandName.ofText? name with
  | none => .error .usage
  | some name =>
    if hasAmbiguous name.options args then .error .usage
    else (readArguments name.options .start false args).map (·.action? name)

/-! ## Reading the command line -/

/-- The options of the whole program that have been read. -/
structure GlobalDraft where
  verbose : Bool
  config : Option String
  /-- Whether there was an argument that means nothing. -/
  spoiled : Bool

namespace GlobalDraft

/-- Nothing is read. -/
def start : GlobalDraft := ⟨false, none, false⟩

/-- Makes the settings of one argument. A value that lacks its text counts as an empty one. -/
def apply (d : GlobalDraft) : List (Setting GlobalOption) → Except Stop GlobalDraft
  | [] => .ok d
  | .flag .help :: _ => .error .help
  | .flag .version :: _ => .error .version
  | .flag .verbose :: rest => (GlobalDraft.mk true d.config d.spoiled).apply rest
  | .flag .config :: rest => d.apply rest
  | .value _ text :: rest =>
    (GlobalDraft.mk d.verbose (some (text.getD "")) d.spoiled).apply rest

/-- The request of a command. -/
def request? (d : GlobalDraft) (action : Option Action) : Option Request :=
  if d.spoiled then none else action.map fun action => ⟨d.verbose, d.config, action⟩

end GlobalDraft

/-- Reads the options of the whole program, and then the command. -/
def readGlobal (d : GlobalDraft) : List String → Except Stop (Option Request)
  | [] => .error .usage
  | arg :: rest =>
    if arg = "--" then .error .usage
    else
      match globalOptions.classify arg with
      | .positional => (readCommand arg rest).map d.request?
      | .unknown => readGlobal ⟨d.verbose, d.config, true⟩ rest
      | .ambiguous => .error .usage
      | .option o name attached =>
        match globalOptions.expand o name attached, rest with
        | .ok (settings, none), rest => do readGlobal (← d.apply settings) rest
        | .ok (settings, some o), value :: rest =>
          if globalOptions.isValue value then do
            readGlobal (← d.apply (settings ++ [.value o (some value)])) rest
          else .error .usage
        | _, _ => .error .usage

/-- What a command line asks for. -/
def readCommandLine (args : List String) : Invocation :=
  if hasAmbiguous globalOptions args then .usageError
  else
    match readGlobal .start args with
    | .ok (some request) => .run request
    | .ok none => .usageError
    | .error stop => stop.invocation

end Stencil.Command
