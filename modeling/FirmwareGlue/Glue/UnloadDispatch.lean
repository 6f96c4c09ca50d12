import FirmwareGlue.Glue.Config
import FirmwareGlue.Glue.EntryDispatch

/-!
# Unload handlers and the dispatcher that calls them

A driver is unloaded through one function, which calls its unload handlers. With several of them
the policy decides: either all run, and the first error is kept, or they run until one fails. The
status that is returned is the same either way.
-/

namespace FirmwareGlue.Glue

open Code

/-- The function through which a driver is unloaded. -/
def unloadDispatcher : String := "ProcessModuleUnloadList"

def unloadCall (handler : String) : Call := forward handler unloadParameters

/-- A step that runs a handler in any case, and keeps an error that was there before. -/
def runStep (handler : String) : Statement :=
  .branch (.failed "Status") [.perform (unloadCall handler)]
    [.store "Status" (.call (unloadCall handler))]

def stopStep (handler : String) : List Statement :=
  [.act (.store "Status" (.call (unloadCall handler))),
    .branch (.failed "Status") [.give (.symbol "Status")] []]

def unloadBody (policy : UnloadPolicy) : List String → List Statement
  | [] => [.act (.give (.symbol "EFI_SUCCESS"))]
  | [handler] => [.act (.give (.call (unloadCall handler)))]
  | first :: rest =>
    let steps := match policy with
      | .runAll => .act (.store "Status" (.call (unloadCall first))) :: rest.map runStep
      | .stopOnError => (first :: rest).flatMap stopStep
    [.declare "EFI_STATUS" "Status", .blank] ++ steps ++
      [.blank, .act (.give (.symbol "Status"))]

/-- The unload handlers of a driver and their dispatcher. -/
def unloadItems (policy : UnloadPolicy) (handlers : List String) : List Item :=
  prototypes "EFI_STATUS" unloadParameters handlers ++
    [.constant ⟨true, .uint8, 2, "_gDriverUnloadImageCount", handlers.length⟩, .blank,
      .function ⟨"EFI_STATUS", unloadDispatcher, unloadParameters⟩ (unloadBody policy handlers)]

end FirmwareGlue.Glue
