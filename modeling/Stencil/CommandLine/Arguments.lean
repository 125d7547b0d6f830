import Stencil.Text.Blank

/-!
# Arguments of the command line

A command takes options with values, written `--name value` or `--name=value`,
and positional values.  What starts with a dash is an option, except the dash
alone, and behind `--` everything is positional.
-/

namespace Stencil.CommandLine

/-- One argument of a command. -/
inductive Argument where
  | option (name value : String)
  | positional (value : String)
  | help
deriving DecidableEq

/-- What is wanted from the program. -/
inductive Command where
  | evaluate (nodes : String) (sources : List (String × String)) (settings : Option String)
    (context : String)
  | query (source path : String)
  | normalize (path : String)
  | version
  | help
deriving DecidableEq

/-- Whether an argument has the form of an option. -/
def isOption (argument : String) : Bool :=
  match argument.toList with
  | '-' :: _ :: _ => true
  | _ => false

/-- A text around its first equals sign; nothing when it has none. -/
def splitEquals (text : List Char) : Option (String × String) :=
  match text.dropWhile (· != '=') with
  | [] => none
  | _ :: value => some (String.ofList (text.takeWhile (· != '=')), String.ofList value)

/-- The arguments of a command that knows some options, up to the first that asks for help. -/
def scan (options : List String) : List String → Option (List Argument)
  | [] => some []
  | "--" :: rest => some (rest.map .positional)
  | argument :: rest =>
    match argument.toList with
    | '-' :: '-' :: long =>
      match splitEquals long with
      | some (name, value) =>
        if options.contains name then (scan options rest).map (.option name value :: ·) else none
      | none =>
        let name := String.ofList long
        if name = "help" then some [.help]
        else if options.contains name then
          match rest with
          | value :: behind =>
            if isOption value then none
            else (scan options behind).map (.option name value :: ·)
          | [] => none
        else none
    | '-' :: 'h' :: _ => some [.help]
    | '-' :: _ :: _ => none
    | _ => (scan options rest).map (.positional argument :: ·)

/-- What the arguments of a command give so far. -/
structure Given where
  /-- The value of the option for nodes. -/
  nodes : Option String := none
  /-- The named sources. -/
  sources : List (String × String) := []
  /-- The value of the option for a single source. -/
  source : Option String := none
  /-- The value of the option for settings. -/
  settings : Option String := none
  /-- The value of the option for the context. -/
  context : Option String := none
  /-- The positional value. -/
  path : Option String := none

/-- A value that is given once. -/
def once (value : String) : Option String → Option (Option String)
  | none => some (some value)
  | some _ => none

/-- The value of an option that names a file, which is not empty and given once. -/
def file (value : String) (given : Option String) : Option (Option String) :=
  if value = "" then none else once value given

/-- A source written as its name, an equals sign and a file. -/
def namedSource? (value : String) : Option (String × String) :=
  (splitEquals value.toList).bind fun (name, path) =>
    let trimmed := Text.trimmed name
    if trimmed = "" || path = "" then none else some (trimmed, path)

/-- The command of arguments that follow one another; `take` says what each one gives. -/
def collect
    (take : Given → Argument → Option Given)
    (finish : Given → Option Command)
    (given : Given) :
    List Argument → Option Command
  | [] => finish given
  | .help :: _ => some .help
  | argument :: rest => (take given argument).bind fun next => collect take finish next rest

/-- What an argument of `eval` gives. -/
def takeEvaluate (given : Given) : Argument → Option Given
  | .option "nodes" value =>
    (file value given.nodes).map fun nodes => { given with nodes }
  | .option "source" value =>
    (namedSource? value).map fun source =>
      { given with sources := given.sources ++ [source] }
  | .option "config" value =>
    (file value given.settings).map fun settings => { given with settings }
  | .option "context" value =>
    (once value given.context).map fun context => { given with context }
  | _ => none

/-- What an argument of `query` gives. -/
def takeQuery (given : Given) : Argument → Option Given
  | .option "source" value =>
    (file value given.source).map fun source => { given with source }
  | .positional value => (once value given.path).map fun path => { given with path }
  | _ => none

/-- What an argument of `normalize` gives. -/
def takeNormalize (given : Given) : Argument → Option Given
  | .positional value => (once value given.path).map fun path => { given with path }
  | _ => none

/-- The command of the arguments behind its name. -/
def parseCommand (name : String) (arguments : List String) : Option Command :=
  match name with
  | "eval" =>
    (scan ["nodes", "source", "config", "context"] arguments).bind
      (collect takeEvaluate
        (fun given => given.nodes.map fun nodes =>
          .evaluate nodes given.sources given.settings (given.context.getD "$")) {})
  | "query" =>
    (scan ["source"] arguments).bind
      (collect takeQuery
        (fun given => given.source.bind fun source => given.path.map fun path =>
          .query source path) {})
  | "normalize" =>
    (scan [] arguments).bind
      (collect takeNormalize (fun given => given.path.map .normalize) {})
  | _ => none

/-- The names of the commands. -/
def commandNames : List String := ["eval", "query", "normalize", "help"]

/-- The command of the arguments of the program; nothing when they are misused. -/
def parse : List String → Option Command
  | [] => none
  | "--version" :: _ => some .version
  | "--help" :: _ => some .help
  | "help" :: rest => if rest.all commandNames.contains then some .help else none
  | name :: rest =>
    match name.toList with
    | '-' :: 'V' :: _ => some .version
    | '-' :: 'h' :: _ => some .help
    | _ => parseCommand name rest

end Stencil.CommandLine
