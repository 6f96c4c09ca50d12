/-!
# Configuration of generation

What a build decides for all its modules: where the header of the legacy flash map is found, how
several unload handlers of one driver follow each other, and whether configuration values may
switch columns of the driver-model table off.
-/

namespace FirmwareGlue

/-- How several unload handlers follow each other. -/
inductive UnloadPolicy where
  /-- Every handler runs, and the first error is returned. -/
  | runAll
  /-- Handlers run until one fails. -/
  | stopOnError
  deriving DecidableEq

namespace UnloadPolicy

def all : List UnloadPolicy := [.runAll, .stopOnError]

def spelling : UnloadPolicy → String
  | runAll => "run-all"
  | stopOnError => "stop-on-error"

def ofSpelling? (s : String) : Option UnloadPolicy :=
  all.find? fun policy => policy.spelling == s

/-- The policy where none is chosen. -/
def standard : UnloadPolicy := .runAll

theorem ofSpelling?_spelling (policy : UnloadPolicy) :
    ofSpelling? policy.spelling = some policy := by
  cases policy <;> decide

end UnloadPolicy

structure Config where
  /-- The directory that holds the header of the legacy flash map. -/
  flashMapDir : Option String := none
  unloadPolicy : UnloadPolicy := .standard
  /-- Whether the configuration values that disable driver-model protocols are respected. -/
  honorDriverModelPcds : Bool := true
  deriving DecidableEq

namespace Config

/-- The configuration in which unloading stops at the first failing handler. -/
def strict : Config := { unloadPolicy := .stopOnError }

end Config

/-- Texts that are added to the generated files as they are, each at the end of its file. -/
structure PcdFragments where
  header : String := ""
  source : String := ""
  deriving DecidableEq

end FirmwareGlue
