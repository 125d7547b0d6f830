import Stencil.CommandLine.Arguments
import Stencil.Evaluation
import Stencil.Function.Standard
import Stencil.Node.Codec
import Stencil.Settings.Load

/-!
# The command line

The program evaluates nodes against source documents, queries one document or
normalizes a path.  Nodes are evaluated in order and share one tag table, so a
node finds what the nodes before it recorded.  Files are read through an action
of the caller.
-/

namespace Stencil.CommandLine

/-- Why a command ended without an answer. -/
inductive Failure where
  | settings (file : String) (error : SettingsError)
  | unreadable (file : String)
  | malformed (file : String)
  | notNodes (file : String) (found : Value)
  | node (index : Nat) (error : DecodeError)
  | context (error : PathError)
  | evaluation (index : Nat) (path : String) (error : EvaluationError)
  | query (path : String) (error : PathError)

/-- The wording of a failure. -/
def Failure.message : Failure → String
  | .settings file _ => "Failed to load config from " ++ file
  | .unreadable file => "Failed to read " ++ file
  | .malformed file => "Invalid JSON in " ++ file
  | .notNodes file found =>
    s!"{file} must hold a node object or an array of nodes, found {found.typeName}"
  | .node index _ => s!"Invalid node at index {index}"
  | .context _ => "Invalid --context path"
  | .evaluation index path _ => s!"Failed to evaluate node {index} ({path})"
  | .query path _ => "Failed to query " ++ path

/-- How the program ends. -/
inductive Outcome where
  | printed (text : String)
  | failed (failure : Failure)
  | misused

/-- What `--version` prints. -/
def versionText : String := "morph 0.1.0\n"

/-- How the program is used. -/
def usageText : String :=
  "Usage: morph eval --nodes <file> [--source <name>=<file>]...\n"
    ++ "                  [--config <file>] [--context <path>]\n"
    ++ "       morph query --source <file> <path>\n"
    ++ "       morph normalize <path>\n"

section Files

variable {Effect : Type → Type} [Monad Effect]

/-- The document of a file. -/
def readDocument (readFile : String → Effect (Option String)) (file : String) :
    ExceptT Failure Effect Value := do
  match ← readFile file with
  | none => throw (.unreadable file)
  | some text =>
    match Value.read? text with
    | some document => return document
    | none => throw (.malformed file)

/-- The settings of a file; the defaults without one. -/
def readSettings (readFile : String → Effect (Option String)) (file : Option String) :
    ExceptT Failure Effect Settings :=
  match file with
  | none => return {}
  | some path => do
    match ← ExceptT.lift (Settings.load readFile path) with
    | .ok settings => return settings
    | .error error => throw (.settings path error)

/-- The documents of named files; of two with one name the last one counts. -/
def readSources (readFile : String → Effect (Option String)) (sources : Registry Value) :
    List (String × String) → ExceptT Failure Effect (Registry Value)
  | [] => return sources
  | (name, file) :: rest => do
    let document ← readDocument readFile file
    readSources readFile (sources.insert name document) rest

/-- The nodes of documents, numbered from an index on. -/
def decodeNodes (index : Nat) : List Value → Except Failure (List Node)
  | [] => .ok []
  | document :: rest =>
    match Node.decode document with
    | .error error => .error (.node index error)
    | .ok node => (decodeNodes (index + 1) rest).map (node :: ·)

/-- The nodes of a file, which holds one of them or an array. -/
def readNodes (readFile : String → Effect (Option String)) (file : String) :
    ExceptT Failure Effect (List Node) := do
  match ← readDocument readFile file with
  | .array items => liftExcept (decodeNodes 0 items)
  | .object members => liftExcept (decodeNodes 0 [.object members])
  | other => throw (.notNodes file other)

end Files

/-- The values of nodes evaluated one after the other, numbered from an index on. -/
def evaluateNodes (environment : Environment) (base : Location) (index : Nat) (table : TagTable) :
    List Node → Except Failure (List Value × TagTable)
  | [] => .ok ([], table)
  | node :: rest =>
    match (node.evaluate environment (base.child (.index index))).run.run table with
    | (.error error, _) => .error (.evaluation index node.path error)
    | (.ok evaluated, next) =>
      (evaluateNodes environment base (index + 1) next rest).map fun read =>
        (evaluated.value.getD .null :: read.1, read.2)

/-- The values of a pass and the tags it recorded, as a document. -/
def report (values : List Value) (table : TagTable) : Value :=
  .object [("values", .array values), ("tags", table.toValue)]

section Files

variable {Effect : Type → Type} [Monad Effect]

/-- What a command prints. -/
def answer (readFile : String → Effect (Option String)) :
    Command → ExceptT Failure Effect String
  | .version => return versionText
  | .help => return usageText
  | .normalize path => return Path.qualified path ++ "\n"
  | .query source path => do
    let document ← readDocument readFile source
    let normalized := Path.qualified path
    match Path.select document normalized with
    | .ok found => return (Value.array found).indented ++ "\n"
    | .error error => throw (.query normalized error)
  | .evaluate nodesFile sourceFiles settingsFile context => do
    let settings ← readSettings readFile settingsFile
    let sources ← readSources readFile {} sourceFiles
    let nodes ← readNodes readFile nodesFile
    match Path.locate context with
    | .error error => throw (.context error)
    | .ok base =>
      let environment : Environment := { sources, settings, functions := Standard.registry }
      let (values, table) ← liftExcept (evaluateNodes environment base 0 {} nodes)
      return (report values table).indented ++ "\n"

/-- Run the program on its arguments. -/
def run (readFile : String → Effect (Option String)) (arguments : List String) :
    Effect Outcome :=
  match parse arguments with
  | none => return .misused
  | some command => do
    match ← (answer readFile command).run with
    | .ok text => return .printed text
    | .error failure => return .failed failure

end Files

end Stencil.CommandLine
