import FirmwareGlue.CommandLine.Commands

/-!
# The program

The outer layer: it hands the arguments to the library, offers it the files of the machine, shows
records on the standard error output as they come, and prints what the command leaves behind. A
command that fails ends with status 1, arguments that are refused with status 2.
-/

namespace FirmwareGlue

open Storage CommandLine

/-- Actions on the files of the machine, with the line that shows a record, if it is shown. -/
abbrev OnMachine : Type → Type := ReaderT (Record → Option String) IO

namespace OnMachine

/-- The fault that an error of the machine stands for. Some operations give the number of an error
as it is, and some its negative. -/
def faultOf (e : IO.Error) : Fault :=
  match e with
  | .noFileOrDirectory .. => .notFound
  | .alreadyExists .. => .alreadyExists
  | .inappropriateType _ code _ =>
    if code = 21 || code = -21 then .isADirectory else .notADirectory
  | .resourceBusy .. => .resourceBusy
  | .invalidArgument _ code _ =>
    if code = 36 || code = -36 then .nameTooLong else .other (toString e)
  | e => .other (toString e)

/-- The outcome of an action, its error as a fault. -/
def attempt {α : Type} (action : IO α) : OnMachine (Except Fault α) := do
  try return .ok (← action) catch e => return .error (faultOf e)

/-- What the machine knows about a file or directory. -/
def metadataOf (path : String) : IO IO.FS.Metadata := do
  if path = "" then throw (.noFileOrDirectory path 2 "")
  let here ← IO.currentDir
  (here / path).metadata

def isDirectory (path : String) : IO Bool := do
  try return (← metadataOf path).type matches .dir catch _ => return false

/-- A path and those of the directories that it leads through, the longest first. -/
def leadingPaths (path : String) : List String :=
  let root := if path.toList.head? = some '/' then "/" else ""
  ((leadingParts (partsOf path)).map fun parts => root ++ String.intercalate "/" parts).filter
    (· ≠ "")

/-- Makes a directory in a directory that exists, unless it exists too. -/
def ensureDirectory (path : String) : IO Unit := do
  try IO.FS.createDir path catch e =>
    match faultOf e with
    | .alreadyExists => unless ← isDirectory path do throw e
    | _ => throw e

/-- Makes the first of some directories, and before it those of the others that are lacking on the
way to it. -/
def makeFirst : List String → IO Unit
  | [] => return
  | path :: leads => do
    try ensureDirectory path catch e =>
      match faultOf e with
      | .notFound =>
        makeFirst leads
        ensureDirectory path
      | _ => throw e

/-- Writes a new file beside a path and renames it to the path. -/
def replaceAt (path : String) (content : ByteArray) : IO Unit := do
  let interim := join (parentPath path) (".tmp" ++ toString (← IO.rand 100000 999999))
  let handle ← IO.FS.Handle.mk interim .writeNew
  handle.write content
  handle.flush
  try IO.FS.rename interim path catch e =>
    IO.FS.removeFile interim
    throw e

def nanoseconds (time : IO.FS.SystemTime) : Nat :=
  time.sec.toNat * 1000000000 + time.nsec.toNat

end OnMachine

instance : Surroundings OnMachine where
  contentOf path := OnMachine.attempt (IO.FS.readBinFile path)
  modifiedAt path := OnMachine.attempt do
    return OnMachine.nanoseconds (← OnMachine.metadataOf path).modified
  makeDirectories path := OnMachine.attempt (OnMachine.makeFirst (OnMachine.leadingPaths path))
  replaceFile path content := OnMachine.attempt (OnMachine.replaceAt path content)
  record r := do
    if let some line := (← read) r then IO.eprint line

def usage : String :=
  "Usage: firmware-glue [--json] [-v|--verbose] COMMAND

Commands:
  generate WORKSPACE [-a ARCH] (-m MODULE | --all) -o DIR [--fv-dir DIR]
           [--unload-policy run-all|stop-on-error] [--pcd-header FILE] [--pcd-source FILE]
  order WORKSPACE [-a ARCH] -m MODULE
  capabilities WORKSPACE [-a ARCH] -m MODULE
"

/-- Runs an invocation on the machine and gives its exit status. -/
def runOnMachine (i : Invocation) : IO UInt32 := do
  let action : OnMachine Completion := i.run
  let completion ← action i.shownLine
  IO.print completion.output
  if let some failure := completion.failure then IO.eprint failure.text
  return completion.status.toUInt32

end FirmwareGlue

def main (arguments : List String) : IO UInt32 := do
  match FirmwareGlue.CommandLine.Invocation.ofArguments arguments with
  | .ok i => FirmwareGlue.runOnMachine i
  | .error .help =>
    IO.print FirmwareGlue.usage
    return 0
  | .error .version =>
    IO.println "firmware-glue 0.1.0"
    return 0
  | .error .refused =>
    IO.eprint FirmwareGlue.usage
    return 2
