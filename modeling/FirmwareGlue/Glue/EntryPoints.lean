import FirmwareGlue.Glue.EntryWriting
import FirmwareGlue.Glue.Shape
import FirmwareGlue.Journal

/-!
# What is generated for entry points and unload handlers

Each shape makes its own items of them. The foundations need exactly one entry point. Unload
handlers matter to drivers and applications only; code for any phase has no use for entry points
either. What is ignored is warned of.
-/

namespace FirmwareGlue

open Code (Item)

structure EntryPoints where
  type : ModuleType
  entries : List String
  unloads : List String
  policy : UnloadPolicy := .standard
  deriving DecidableEq

namespace EntryPoints

/-- The only entry point, where there has to be exactly one. -/
def only (e : EntryPoints) : Except Error String :=
  match e.entries with
  | [entry] => .ok entry
  | entries => .error (.entryPointCount e.type entries.length)

def items (e : EntryPoints) : Except Error (List Item) :=
  match e.type.shape with
  | .phaseless => .ok []
  | .peiCore => do .ok (Glue.peiCoreItems (← e.only))
  | .dxeCore => do .ok (Glue.dxeCoreItems (← e.only))
  | .peim => .ok (Glue.peimItems e.entries)
  | .driver =>
    .ok ([.constant ⟨true, .uint32, 1, "_gUefiDriverRevision", 0⟩, .blank] ++
      Glue.driverItems e.entries ++ Glue.unloadItems e.policy e.unloads)
  | .smmDriver => .ok (Glue.driverItems e.entries ++ Glue.unloadItems e.policy e.unloads)

def write (e : EntryPoints) : Writer Unit :=
  match e.type.shape with
  | .phaseless => pure ()
  | .peiCore => Glue.writePeiCore e.only
  | .dxeCore => Glue.writeDxeCore e.only
  | .peim => Glue.writePeim e.entries
  | .driver => Glue.writeDriver true e.entries e.policy e.unloads
  | .smmDriver => Glue.writeDriver false e.entries e.policy e.unloads

/-- Writes what is generated to a buffer: what is in the buffer afterwards, and whether there was an
error. -/
def appendTo (e : EntryPoints) (buffer : String) : String × Except Error Unit :=
  (StateT.run (ExceptT.run e.write) buffer).swap

/-- The warning that some symbols are ignored, if there are any. -/
def ignored (type : ModuleType) (what : String) (symbols : List String) : List Record :=
  if symbols.isEmpty then []
  else [⟨.warn, type.spelling ++ " modules have no " ++ what ++ " dispatcher, ignoring "
    ++ String.intercalate ", " symbols⟩]

/-- The warnings about what is ignored. An error leaves no warning. -/
def records (e : EntryPoints) : List Record :=
  let unloads := ignored e.type "unload" e.unloads
  match e.type.shape with
  | .phaseless => ignored e.type "entry point" e.entries ++ unloads
  | .peiCore | .dxeCore =>
    match e.only with
    | .ok _ => unloads
    | .error _ => []
  | .peim => unloads
  | .driver | .smmDriver => []

end EntryPoints

end FirmwareGlue
