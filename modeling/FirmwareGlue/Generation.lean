import FirmwareGlue.Glue.Rendering
import FirmwareGlue.Storage.Output

/-!
# Generation

To generate a module is to render it and to write its header and its source into a directory. Both
are rendered before anything is written. A module that asks for the legacy flash map gets a copy
of it beside the generated files. All modules of a workspace are generated one by one, each into
its own directory; one that fails does not stop the others.
-/

namespace FirmwareGlue

/-- A generated file and what happened to it. -/
structure OutputFile where
  path : String
  outcome : Outcome
  deriving DecidableEq

structure Report where
  module : String
  arch : Arch
  header : OutputFile
  source : OutputFile
  deriving DecidableEq

namespace Report

/-- Whether neither file had to be written. -/
def isUpToDate (r : Report) : Bool :=
  r.header.outcome = .unchanged && r.source.outcome = .unchanged

def text (r : Report) : String :=
  r.module ++ " [" ++ r.arch.spelling ++ "]: " ++ r.header.path ++ " " ++ r.header.outcome.spelling
    ++ " " ++ r.source.path ++ " " ++ r.source.outcome.spelling

end Report

namespace Storage

variable {m : Type → Type} [Monad m] [Surroundings m]

/-- The fragments in two files, the header's first. -/
def fragmentsIn (header source : Option String) : m (Except Error PcdFragments) := do
  match ← textIn header with
  | .error error => return .error error
  | .ok header =>
    match ← textIn source with
    | .error error => return .error error
    | .ok source => return .ok ⟨header, source⟩

end Storage

namespace Generation

open Storage Surroundings

variable {m : Type → Type} [Monad m] [Surroundings m]

/-- Where the legacy flash map of a module comes from, if the module asks for it. -/
def flashMapSource (config : Config) (subject : Module) : Except Error (Option String) :=
  if subject.flashMap then
    match config.flashMapDir with
    | some directory => .ok (some (join directory Glue.flashMapName))
    | none => .error (.flashMapMissing Glue.flashMapName)
  else .ok none

def emit (path text : String) : m (Except Error OutputFile) := do
  match ← writeIfChanged path text.toUTF8 with
  | .error error => return .error error
  | .ok .written =>
    record ⟨.info, "Generated " ++ path⟩
    return .ok ⟨path, .written⟩
  | .ok .unchanged =>
    record ⟨.debug, "Skipped " ++ path ++ " (unchanged)"⟩
    return .ok ⟨path, .unchanged⟩

def copyFlashMap (directory : String) : Option String → m (Except Error Unit)
  | none => return .ok ()
  | some source => do
    match ← copyIfNewer source (join directory Glue.flashMapCopyName) with
    | .error error => return .error error
    | .ok _ => return .ok ()

/-- Writes a rendered module into a directory that exists. -/
def emitRendering (v : View) (directory : String) (rendering : Rendering) :
    m (Except Error Report) := do
  match ← emit (join directory Glue.headerName) rendering.header.text with
  | .error error => return .error error
  | .ok header =>
    match ← emit (join directory Glue.sourceName) rendering.source.text with
    | .error error => return .error error
    | .ok source => return .ok ⟨v.name, v.arch, header, source⟩

/-- Renders a module, and finds out where its flash map comes from. -/
def prepare (ws : Workspace) (config : Config) (v : View) (fragments : PcdFragments) :
    Except Error (Rendering × Option String) := do
  let rendering ← Rendering.ofView ws config v fragments
  .ok (rendering, ← flashMapSource config v.subject)

/-- Generates a module into a directory, which is made if it does not exist. -/
def generate (ws : Workspace) (config : Config) (v : View) (directory : String)
    (fragments : PcdFragments) : m (Except Error Report) := do
  recordAll (Rendering.records ws config v)
  match prepare ws config v fragments with
  | .error error => return .error error
  | .ok (rendering, flashMap) =>
    match ← makeDirectories directory with
    | .error fault => return .error (.writeFailed directory fault)
    | .ok () =>
      match ← copyFlashMap directory flashMap with
      | .error error => return .error error
      | .ok () => emitRendering v directory rendering

/-- The directory of a module when all modules are generated. -/
def directoryOf (root : String) (v : View) : String :=
  join (join root v.name) v.arch.spelling

/-- The modules that are generated when all are: those that are no library instances. -/
def subjects (ws : Workspace) : List Module :=
  ws.modules.toList.filter fun subject => !subject.isLibrary

/-- Generates all modules that are no library instances, and says for each what happened. -/
def generateAll (ws : Workspace) (config : Config) (arch : Arch) (root : String)
    (fragments : PcdFragments) : m (List (Module × Except Error Report)) :=
  (subjects ws).mapM fun subject => do
    let v : View := ⟨subject, arch⟩
    return (subject, ← generate ws config v (directoryOf root v) fragments)

end Generation

end FirmwareGlue
