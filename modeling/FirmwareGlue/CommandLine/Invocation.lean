import FirmwareGlue.CommandLine.Arguments
import FirmwareGlue.Journal

/-!
# Invocations

The program generates the glue of one module or of all, or shows the order of a module's library
instances or its capabilities. Two switches may stand before or after the name of the command:
output as JSON, and records down to the least severe level. Arguments may also ask for help or for
the version, and those that make no invocation are refused as a whole.
-/

namespace FirmwareGlue.CommandLine

structure Query where
  workspace : String
  arch : String
  module : String
  deriving DecidableEq

structure GenerateOrder where
  workspace : String
  arch : String
  /-- The module to generate; all modules if none is named. -/
  module : Option String
  output : String
  flashMapDir : Option String
  unloadPolicy : String
  pcdHeader : Option String
  pcdSource : Option String
  deriving DecidableEq

inductive Command where
  | generate (order : GenerateOrder)
  | order (query : Query)
  | capabilities (query : Query)
  deriving DecidableEq

/-- A command and the switches that go with every command. -/
structure Invocation where
  command : Command
  json : Bool
  verbose : Bool
  deriving DecidableEq

/-! ## What arguments ask for -/

namespace Invocation

/-- The options that go with every command. -/
def commonOptions : OptionTable :=
  [⟨none, "json", .switch⟩, ⟨some 'v', "verbose", .switch⟩, ⟨some 'h', "help", .ending .help⟩]

/-- The options before the name of the command. -/
def leadingOptions : OptionTable :=
  commonOptions ++ [⟨some 'V', "version", .ending .version⟩]

/-- The options that name an architecture and a module. -/
def subjectOptions : OptionTable :=
  [⟨some 'a', "arch", .text⟩, ⟨some 'm', "module", .text⟩]

def queryOptions : OptionTable :=
  commonOptions ++ subjectOptions

def generateOptions : OptionTable :=
  commonOptions ++ subjectOptions ++ [⟨none, "all", .switch⟩, ⟨some 'o', "output", .path⟩,
    ⟨none, "fv-dir", .path⟩, ⟨none, "unload-policy", .text⟩, ⟨none, "pcd-header", .path⟩,
    ⟨none, "pcd-source", .path⟩]

/-- The architecture that is named, or the one where none is. -/
def archName (tokens : List Token) : String :=
  (Token.value? tokens "arch").getD "IA32"

def query? (tokens : List Token) : Option Query := do
  let workspace ← Token.operand? tokens
  let module ← Token.value? tokens "module"
  some ⟨workspace, archName tokens, module⟩

/-- The module that is named, unless all are meant; exactly one of the two has to be said. -/
def subject? (tokens : List Token) : Option (Option String) :=
  match Token.value? tokens "module", Token.isOn tokens "all" with
  | some module, false => some (some module)
  | none, true => some none
  | _, _ => none

def generateOrder? (tokens : List Token) : Option GenerateOrder := do
  let value := Token.value? tokens
  some {
    workspace := ← Token.operand? tokens
    arch := archName tokens
    module := ← subject? tokens
    output := ← value "output"
    flashMapDir := value "fv-dir"
    unloadPolicy := (value "unload-policy").getD "run-all"
    pcdHeader := value "pcd-header"
    pcdSource := value "pcd-source" }

/-- Reads what follows the name of a command. What the command lacks is found at the end. -/
def finish (before : List Token) (options : OptionTable) (arguments : List String)
    (command? : List Token → Option Command) : Except Ending Invocation := do
  let tokens ← options.scan [] arguments
  match command? tokens with
  | none => .error .refused
  | some command =>
    let isOn (name : String) := Token.isOn before name || Token.isOn tokens name
    .ok ⟨command, isOn "json", isOn "verbose"⟩

def commandNames : List String := ["generate", "order", "capabilities", "help"]

/-- What a question for help ends with: it may name one command. -/
def helpOn : List String → Ending
  | [] => .help
  | [name] => if name ∈ commandNames then .help else .refused
  | _ => .refused

/-- The invocation that the name of a command and what follows it make. -/
def ofCommand (before : List Token) (name : String) (after : List String) :
    Except Ending Invocation :=
  match name with
  | "help" => .error (helpOn after)
  | "generate" => finish before generateOptions after fun tokens =>
    (generateOrder? tokens).map .generate
  | "order" => finish before queryOptions after fun tokens => (query? tokens).map .order
  | "capabilities" => finish before queryOptions after fun tokens =>
    (query? tokens).map .capabilities
  | _ => .error .refused

def ofArguments (arguments : List String) : Except Ending Invocation := do
  let (before, name, after) ← leadingOptions.scanToOperand [] arguments
  ofCommand before name after

end Invocation

/-- The least severe level of records that an invocation shows, if it shows any. -/
def Invocation.threshold (i : Invocation) : Option Level :=
  if i.json then none else if i.verbose then some .debug else some .info

end FirmwareGlue.CommandLine
