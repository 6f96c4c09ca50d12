import FirmwareGlue.Error
import FirmwareGlue.Glue.UnloadDispatch

/-!
# Writing entry points and unload handlers

What is generated for entry points and unload handlers is written to a buffer piece by piece: heads
of functions with their parameters one a line, bodies statement by statement, and loops over the
symbols. A foundation needs exactly one entry point, and whether it has one is found out before
anything is written.
-/

namespace FirmwareGlue

/-- Something that writes to a buffer, and may come to an error instead of going on. -/
abbrev Writer := ExceptT Error (StateM String)

/-- Adds a text at the end of the buffer. -/
def Writer.put (text : String) : Writer Unit :=
  modify (· ++ text)

namespace Glue

open Code
open Writer (put)

/-- What follows the head of a function that is only declared. -/
def declaration : String := ";\n\n"

/-- What follows the head of a function whose body comes next. -/
def definition : String := "\n\x7b\n"

/-- The end of a body. -/
def bodyEnd : String := "\x7d\n\n"

/-- Writes the lines of a parameter list, with commas in between. -/
def writeParameters : List String → Writer Unit
  | [] => pure ()
  | [line] => put ("  " ++ line ++ "\n")
  | line :: rest => do
    put ("  " ++ line ++ ",\n")
    writeParameters rest

def writeHead (head : Signature) (close : String) : Writer Unit := do
  put (head.returns ++ "\nEFIAPI\n" ++ head.name ++ " (\n")
  writeParameters head.parameters.lines
  put "  )"
  put close

def writePrototypes (returns : String) (parameters : ParameterList) (symbols : List String) :
    Writer Unit :=
  symbols.forM fun symbol => writeHead ⟨returns, symbol, parameters⟩ declaration

def writeStatements (statements : List Statement) : Writer Unit :=
  statements.forM fun statement => put statement.text

def writeLines (items : List Item) : Writer Unit :=
  items.forM fun item => put item.text

/-- Writes what the PEI foundation has for its only entry point. -/
def writePeiCore (only : Except Error String) : Writer Unit := do
  let entry ← only
  writeHead ⟨"EFI_STATUS", entry, peiCoreParameters⟩ declaration
  writeHead ⟨"EFI_STATUS", entryDispatcher, peiCoreParameters⟩ definition
  writeStatements [.act (.give (.call (forward entry peiCoreParameters)))]
  put bodyEnd

/-- Writes what the DXE foundation has for its only entry point. -/
def writeDxeCore (only : Except Error String) : Writer Unit := do
  let entry ← only
  writeLines [.constant ⟨false, .uint32, 1, "_gUefiDriverRevision", 0⟩, .blank]
  writeHead ⟨"VOID", entry, dxeCoreParameters⟩ declaration
  writeHead ⟨"VOID", entryDispatcher, dxeCoreParameters⟩ definition
  writeStatements [.act (.perform (forward entry dxeCoreParameters))]
  put bodyEnd

def writePeimBody : List String → Writer Unit
  | [] => writeStatements [.act (.give (.symbol "EFI_SUCCESS"))]
  | [entry] => writeStatements [.act (.give (.call (forward entry peimParameters)))]
  | entries => do
    writeStatements [.declare "EFI_STATUS" "Status", .declare "EFI_STATUS" "CombinedStatus",
      .blank, .act (.store "CombinedStatus" (.symbol "EFI_LOAD_ERROR")), .blank]
    entries.forM fun entry => writeStatements (peimStep entry)
    writeStatements [.act (.give (.symbol "CombinedStatus"))]

/-- Writes what a PEI module has for its entry points. -/
def writePeim (entries : List String) : Writer Unit := do
  writeLines [.constant ⟨true, .uint32, 1, "_gPeimRevision", 0⟩, .blank]
  writePrototypes "EFI_STATUS" peimParameters entries
  writeHead ⟨"EFI_STATUS", entryDispatcher, peimParameters⟩ definition
  writePeimBody entries
  put bodyEnd

def writeDriverBody : List String → Writer Unit
  | [] => writeStatements [.act (.give (.symbol "EFI_SUCCESS"))]
  | [entry] => writeStatements [.act (.give (.call (forward entry driverParameters)))]
  | entries => do
    entries.forM fun entry => writeStatements (driverStep entry)
    writeStatements [.act (.give (.symbol keptStatus))]

/-- Writes the function through which a driver is left, if it has entry points. -/
def writeExit : List String → Writer Unit
  | [] => pure ()
  | entries => do
    writeHead ⟨"VOID", exitFunction, exitParameters⟩ definition
    writeStatements (exitBody entries)
    put bodyEnd

def writeUnloadBody : UnloadPolicy → List String → Writer Unit
  | _, [] => writeStatements [.act (.give (.symbol "EFI_SUCCESS"))]
  | _, [handler] => writeStatements [.act (.give (.call (unloadCall handler)))]
  | .runAll, first :: rest => do
    writeStatements [.declare "EFI_STATUS" "Status", .blank,
      .act (.store "Status" (.call (unloadCall first)))]
    rest.forM fun handler => writeStatements [runStep handler]
    writeStatements [.blank, .act (.give (.symbol "Status"))]
  | .stopOnError, handlers => do
    writeStatements [.declare "EFI_STATUS" "Status", .blank]
    handlers.forM fun handler => writeStatements (stopStep handler)
    writeStatements [.blank, .act (.give (.symbol "Status"))]

/-- Writes what a driver has for its unload handlers. -/
def writeUnload (policy : UnloadPolicy) (handlers : List String) : Writer Unit := do
  writePrototypes "EFI_STATUS" unloadParameters handlers
  writeLines [.constant ⟨true, .uint8, 2, "_gDriverUnloadImageCount", handlers.length⟩, .blank]
  writeHead ⟨"EFI_STATUS", unloadDispatcher, unloadParameters⟩ definition
  writeUnloadBody policy handlers
  put bodyEnd

/-- Writes what a driver or application has for its entry points and unload handlers. -/
def writeDriver (revision : Bool) (entries : List String) (policy : UnloadPolicy)
    (unloads : List String) : Writer Unit := do
  writeLines (if revision then [.constant ⟨true, .uint32, 1, "_gUefiDriverRevision", 0⟩, .blank]
    else [])
  writePrototypes "EFI_STATUS" driverParameters entries
  writeLines [.constant ⟨true, .uint8, 2, "_gDriverEntryPointCount", entries.length⟩, .blank]
  writeLines (driverVariables entries)
  writeHead ⟨"EFI_STATUS", entryDispatcher, driverParameters⟩ definition
  writeDriverBody entries
  put bodyEnd
  writeExit entries
  writeUnload policy unloads

end Glue

end FirmwareGlue
